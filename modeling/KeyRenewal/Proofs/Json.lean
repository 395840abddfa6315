import KeyRenewal.Json.Parse
import KeyRenewal.Json.Print
import KeyRenewal.Proofs.Fields
import Mathlib.Tactic.SplitIfs

/-!
# Reading back JSON

A value is read back from its compact text, as long as no part of it is of a kind that is not kept.
Where a number ends only shows in what follows it, which is nothing or a sign that no number has.
-/

namespace KeyRenewal.Json

section strings

variable {c : Char} (rest : List Char)

theorem scanString_named {e : Char} (named : escaped? e = some c) :
    scanString ('\\' :: e :: rest) = do
      let (pieces, rest) ← scanString rest
      return (.char c :: pieces, rest) := by
  unfold escaped? at named
  split at named <;> cases named <;> simp [scanString, escaped?]

theorem scanString_control (control : c.toNat < 32) :
    scanString ('\\' :: 'u' :: '0' :: '0' :: Text.Hex.digit (c.toNat / 16) ::
        Text.Hex.digit (c.toNat % 16) :: rest) = do
      let (pieces, rest) ← scanString rest
      return (.char c :: pieces, rest) := by
  have zero : Text.Hex.value? '0' = some 0 := by decide
  have whole : c.toNat / 16 * 16 + c.toNat % 16 = c.toNat := Nat.div_add_mod' _ _
  have unit : hexUnit? '0' '0' (Text.Hex.digit (c.toNat / 16)) (Text.Hex.digit (c.toNat % 16)) =
      some c.toNat := by
    simp [hexUnit?, zero, Text.Hex.value?_digit (show c.toNat / 16 < 16 by omega),
      Text.Hex.value?_digit (show c.toNat % 16 < 16 by omega), whole]
  have piece : Piece.ofUnit c.toNat = .char c := by
    rw [Piece.ofUnit, if_neg (by omega), if_neg (by omega), Char.ofNat_toNat]
  simp [scanString, unit, piece]

theorem scanString_plain (unquoted : ¬(c = '"' ∨ c = '\\')) (shown : ¬c.toNat < 32) :
    scanString (c :: rest) = do
      let (pieces, rest) ← scanString rest
      return (.char c :: pieces, rest) := by
  obtain ⟨quote, backslash⟩ := not_or.mp unquoted
  rw [scanString, if_neg (not_or.mpr ⟨shown, backslash⟩)]
  · exact quote
  · exact fun _ _ _ _ _ same => absurd same backslash
  · exact fun _ _ same => absurd same backslash

/-- However a character is written in a string, it is read as one piece. -/
theorem scanString_escape (c : Char) :
    scanString (escape c ++ rest) = do
      let (pieces, rest) ← scanString rest
      return (.char c :: pieces, rest) := by
  unfold escape
  split_ifs with named backspace feed line carriage tab control
  · rcases named with rfl | rfl <;> exact scanString_named rest rfl
  · subst backspace
    exact scanString_named rest rfl
  · subst feed
    exact scanString_named rest rfl
  · subst line
    exact scanString_named rest rfl
  · subst carriage
    exact scanString_named rest rfl
  · subst tab
    exact scanString_named rest rfl
  · exact scanString_control rest control
  · exact scanString_plain rest named control

theorem scanString_flatMap (cs : List Char) :
    scanString (cs.flatMap escape ++ '"' :: rest) = some (cs.map .char, rest) := by
  induction cs with
  | nil => simp [scanString]
  | cons c cs ih => simp [scanString_escape, ih]

theorem textOf_map_char (cs : List Char) : textOf (cs.map .char) = some cs := by
  induction cs with
  | nil => rfl
  | cons c cs ih => simp [textOf, ih]

theorem keyOf_map_char (text : String) : keyOf (text.toList.map .char) = some text := by
  simp [keyOf, textOf_map_char]

end strings

/-- What may follow a value: nothing, or a sign that no value goes on with. -/
inductive Ended : List Char → Prop
  | nil : Ended []
  | comma (rest : List Char) : Ended (',' :: rest)
  | bracket (rest : List Char) : Ended (']' :: rest)
  | brace (rest : List Char) : Ended ('\x7d' :: rest)

section numbers

variable (n : Nat) {rest : List Char}

theorem isDigit_toDigits : ∀ c ∈ Nat.toDigits 10 n, c.isDigit = true := fun _ there =>
  Nat.isDigit_of_mem_toDigits (by omega) (by omega) there

theorem toDigits_cons : ∃ c cs, Nat.toDigits 10 n = c :: cs ∧ c.isDigit = true := by
  obtain ⟨c, cs, written⟩ := List.exists_cons_of_ne_nil (Nat.toDigits_ne_nil (n := n) (b := 10))
  exact ⟨c, cs, written, isDigit_toDigits n c (written ▸ List.mem_cons_self)⟩

theorem valueOf_toDigits : valueOf (Nat.toDigits 10 n) = n :=
  Nat.ofDigitChars_toDigits (by omega) (by omega)

/-- Only zero is written with a zero in front. -/
theorem toDigits_head (positive : n ≠ 0) :
    ∃ c cs, Nat.toDigits 10 n = c :: cs ∧ c ≠ '0' := by
  induction n using Nat.strongRecOn with
  | ind n ih =>
    rw [Nat.toDigits_eq_if (by omega)]
    by_cases small : n < 10
    · rw [if_pos small]
      refine ⟨n.digitChar, [], rfl, ?_⟩
      have digits : ∀ d : Fin 10, d.val ≠ 0 → d.val.digitChar ≠ '0' := by decide
      exact digits ⟨n, small⟩ positive
    · rw [if_neg small]
      obtain ⟨c, cs, higher, nonzero⟩ := ih (n / 10) (by omega) (by omega)
      exact ⟨c, cs ++ [(n % 10).digitChar], by rw [higher]; rfl, nonzero⟩

theorem digits_toDigits (ended : Ended rest) :
    digits (Nat.toDigits 10 n ++ rest) = (Nat.toDigits 10 n, rest) := by
  have stops : rest.takeWhile Char.isDigit = [] ∧ rest.dropWhile Char.isDigit = rest := by
    cases ended <;> exact ⟨rfl, rfl⟩
  rw [digits, List.takeWhile_append_of_pos (isDigit_toDigits n),
    List.dropWhile_append_of_pos (isDigit_toDigits n), stops.1, stops.2, List.append_nil]

theorem integerPart_toDigits (ended : Ended rest) :
    integerPart (Nat.toDigits 10 n ++ rest) = some (Nat.toDigits 10 n, rest) := by
  rw [integerPart, digits_toDigits n ended]
  by_cases positive : n = 0
  · subst positive
    rfl
  · obtain ⟨c, cs, written, nonzero⟩ := toDigits_head n positive
    rw [written]
    split <;> simp_all

theorem scanNumber_toDigits (ended : Ended rest) :
    scanNumber (Nat.toDigits 10 n ++ rest) = some (.natural n, rest) := by
  obtain ⟨c, cs, written, digit⟩ := toDigits_cons n
  have unsigned : c ≠ '-' := by
    rintro rfl
    exact absurd digit (by decide)
  have read := integerPart_toDigits n ended
  have number := valueOf_toDigits n
  rw [written] at read number ⊢
  have afterFraction : skipFraction rest = some rest := by cases ended <;> rfl
  have afterExponent : skipExponent rest = some rest := by cases ended <;> rfl
  rw [List.cons_append] at read ⊢
  simp [scanNumber, unsigned, read, afterFraction, afterExponent, number]

theorem isBlank_of_isDigit {c : Char} (digit : c.isDigit = true) : isBlank c = false := by
  refine Bool.eq_false_iff.mpr fun blank => ?_
  simp only [isBlank, Bool.or_eq_true, beq_iff_eq] at blank
  rcases blank with ((rfl | rfl) | rfl) | rfl <;> exact absurd digit (by decide)

end numbers

namespace Value

mutual

/-- Whether no part of the value is of a kind that is not kept. -/
def Kept : Value → Prop
  | null | bool _ | natural _ | string _ => True
  | array items => AllKept items
  | object members => MembersKept members
  | other => False

def AllKept : List Value → Prop
  | [] => True
  | v :: rest => v.Kept ∧ AllKept rest

def MembersKept : List (String × Value) → Prop
  | [] => True
  | (_, v) :: rest => v.Kept ∧ MembersKept rest

end

/-- The text of a value begins with a sign that is no blank and closes no array. -/
theorem compactChars_opens (v : Value) :
    ∃ c cs, v.compactChars = c :: cs ∧ isBlank c = false ∧ c ≠ ']' := by
  cases v with
  | null => exact ⟨'n', _, rfl, rfl, by decide⟩
  | bool value => cases value <;> exact ⟨_, _, rfl, rfl, by decide⟩
  | natural n =>
    obtain ⟨c, cs, written, digit⟩ := toDigits_cons n
    have text : (natural n).compactChars = c :: cs := String.toList_ofList.trans written
    refine ⟨c, cs, text, isBlank_of_isDigit digit, ?_⟩
    rintro rfl
    exact absurd digit (by decide)
  | string text => exact ⟨'"', _, rfl, rfl, by decide⟩
  | array items => exact ⟨'[', _, rfl, rfl, by decide⟩
  | object members => exact ⟨'\x7b', _, rfl, rfl, by decide⟩
  | other => exact ⟨'n', _, rfl, rfl, by decide⟩

end Value

open Value

theorem join_cons {separator text : List Char} {rest : List (List Char)} (more : rest ≠ []) :
    join separator (text :: rest) = text ++ separator ++ join separator rest := by
  obtain ⟨next, others, rfl⟩ := List.exists_cons_of_ne_nil more
  rfl

/-- What is joined begins with the first of the texts. -/
theorem join_begins (separator text : List Char) (rest : List (List Char)) :
    ∃ cs, join separator (text :: rest) = text ++ cs := by
  by_cases more : rest = []
  · subst more
    exact ⟨[], (List.append_nil text).symm⟩
  · exact ⟨separator ++ join separator rest, by rw [join_cons more, List.append_assoc]⟩

theorem compactItems_ne_nil {items : List Value} (nonempty : items ≠ []) :
    compactItems items ≠ [] := by
  obtain ⟨v, others, rfl⟩ := List.exists_cons_of_ne_nil nonempty
  exact List.cons_ne_nil _ _

theorem compactMembers_ne_nil {members : List (String × Value)} (nonempty : members ≠ []) :
    compactMembers members ≠ [] := by
  obtain ⟨m, others, rfl⟩ := List.exists_cons_of_ne_nil nonempty
  exact List.cons_ne_nil _ _

theorem join_items_opens {items : List Value} (nonempty : items ≠ []) :
    ∃ c cs, join [','] (compactItems items) = c :: cs ∧ isBlank c = false ∧ c ≠ ']' := by
  obtain ⟨v, others, rfl⟩ := List.exists_cons_of_ne_nil nonempty
  obtain ⟨c, cs, text, sign, unclosed⟩ := v.compactChars_opens
  obtain ⟨more, joined⟩ := join_begins [','] v.compactChars (compactItems others)
  exact ⟨c, cs ++ more, by rw [compactItems, joined, text, List.cons_append], sign, unclosed⟩

theorem join_members_opens {members : List (String × Value)} (nonempty : members ≠ []) :
    ∃ cs, join [','] (compactMembers members) = '"' :: cs := by
  obtain ⟨⟨key, v⟩, others, rfl⟩ := List.exists_cons_of_ne_nil nonempty
  obtain ⟨more, joined⟩ :=
    join_begins [','] (quote key ++ ':' :: v.compactChars) (compactMembers others)
  exact ⟨_, joined⟩

theorem skipBlanks_cons {c : Char} (sign : isBlank c = false) (cs : List Char) :
    skipBlanks (c :: cs) = c :: cs := by
  simp [skipBlanks, sign]

theorem scanValue_digit {c : Char} (digit : c.isDigit = true) (cs : List Char) (turns : Nat) :
    scanValue (turns + 1) (c :: cs) = scanNumber (c :: cs) := by
  rw [scanValue, skipBlanks_cons (isBlank_of_isDigit digit)]
  split
  case h_7 => rfl
  -- No literal and no opening sign begins with a digit.
  all_goals
    rename_i same
    cases same
    exact absurd digit (by decide)

theorem objectOf_map (members : List (String × Value)) :
    objectOf (members.map fun m => (some m.1, m.2)) = .object members := by
  have named : (members.map fun m => (some m.1, m.2)).mapM
      (fun m : Option String × Value => m.1.map (·, m.2)) = some members :=
    mapM_map_eq_some (fun _ => by rfl) members
  rw [objectOf, named]

mutual

/-- Two turns for every sign suffice: a value spends one on itself, an array or an object one on
each of its items or members, and none of them is without signs. -/
theorem scanValue_compact (v : Value) (kept : v.Kept) {turns : Nat}
    (enough : 2 * v.compactChars.length ≤ turns) {rest : List Char} (ended : Ended rest) :
    scanValue turns (v.compactChars ++ rest) = some (v, rest) := by
  obtain _ | turns := turns
  · obtain ⟨c, cs, text, -, -⟩ := v.compactChars_opens
    simp [text] at enough
  cases v with
  | null => rfl
  | bool value => cases value <;> rfl
  | natural n =>
    obtain ⟨c, cs, written, digit⟩ := toDigits_cons n
    have text : (natural n).compactChars = Nat.toDigits 10 n := String.toList_ofList
    rw [text, ← scanNumber_toDigits n ended, written]
    exact scanValue_digit digit _ _
  | string text =>
    have scanned := scanString_flatMap rest text.toList
    simp [scanValue, compactChars, quote, skipBlanks, isBlank, scanned, keyOf_map_char]
  | array items =>
    by_cases empty : items = []
    · subst empty
      rfl
    · obtain ⟨c, cs, text, sign, unclosed⟩ := join_items_opens empty
      have room : 2 * (join [','] (compactItems items)).length + 1 ≤ turns := by
        simp only [compactChars, List.length_append, List.length_cons, List.length_nil] at enough
        omega
      have inner := scanItems_compact items kept empty room rest
      rw [text, List.cons_append] at inner
      have skipped := skipBlanks_cons sign (cs ++ ']' :: rest)
      simp [scanValue, compactChars, text, skipBlanks_cons, isBlank, skipped, unclosed, inner]
  | object members =>
    by_cases empty : members = []
    · subst empty
      rfl
    · obtain ⟨cs, text⟩ := join_members_opens empty
      have room : 2 * (join [','] (compactMembers members)).length + 1 ≤ turns := by
        simp only [compactChars, List.length_append, List.length_cons, List.length_nil] at enough
        omega
      have inner := scanMembers_compact members kept empty room rest
      rw [text, List.cons_append] at inner
      simp [scanValue, compactChars, text, skipBlanks_cons, isBlank, inner, objectOf_map]
  | other => exact kept.elim

theorem scanItems_compact (items : List Value) (kept : AllKept items) (nonempty : items ≠ [])
    {turns : Nat} (enough : 2 * (join [','] (compactItems items)).length + 1 ≤ turns)
    (rest : List Char) :
    scanItems turns (join [','] (compactItems items) ++ ']' :: rest) = some (items, rest) := by
  obtain _ | turns := turns
  · omega
  cases items with
  | nil => exact absurd rfl nonempty
  | cons v others =>
    by_cases last : others = []
    · subst last
      simp only [compactItems, join] at enough ⊢
      have only := scanValue_compact v kept.1 (show _ ≤ turns by omega) (.bracket rest)
      simp [scanItems, only, skipBlanks_cons, isBlank]
    · simp only [compactItems, join_cons (compactItems_ne_nil last), List.length_append,
        List.length_cons, List.length_nil] at enough ⊢
      have first := scanValue_compact v kept.1 (show _ ≤ turns by omega)
        (.comma (join [','] (compactItems others) ++ ']' :: rest))
      have later := scanItems_compact others kept.2 last (show _ ≤ turns by omega) rest
      simp [scanItems, first, later, skipBlanks_cons, isBlank]

theorem scanMembers_compact (members : List (String × Value)) (kept : MembersKept members)
    (nonempty : members ≠ []) {turns : Nat}
    (enough : 2 * (join [','] (compactMembers members)).length + 1 ≤ turns) (rest : List Char) :
    scanMembers turns (join [','] (compactMembers members) ++ '\x7d' :: rest) =
      some (members.map fun m => (some m.1, m.2), rest) := by
  obtain _ | turns := turns
  · omega
  cases members with
  | nil => exact absurd rfl nonempty
  | cons m others =>
    obtain ⟨key, v⟩ := m
    by_cases last : others = []
    · subst last
      simp only [compactMembers, join, List.length_append, List.length_cons] at enough ⊢
      have only := scanValue_compact v kept.1 (show _ ≤ turns by omega) (.brace rest)
      have named := scanString_flatMap (':' :: (v.compactChars ++ '\x7d' :: rest)) key.toList
      simp [scanMembers, quote, named, only, skipBlanks_cons, isBlank, keyOf_map_char]
    · simp only [compactMembers, join_cons (compactMembers_ne_nil last), List.length_append,
        List.length_cons, List.length_nil] at enough ⊢
      have first := scanValue_compact v kept.1 (show _ ≤ turns by omega)
        (.comma (join [','] (compactMembers others) ++ '\x7d' :: rest))
      have later := scanMembers_compact others kept.2 last (show _ ≤ turns by omega) rest
      have named := scanString_flatMap (':' :: (v.compactChars ++
        (',' :: (join [','] (compactMembers others) ++ '\x7d' :: rest)))) key.toList
      simp [scanMembers, quote, named, first, later, skipBlanks_cons, isBlank, keyOf_map_char]

end

theorem parse_compact {v : Value} (kept : v.Kept) : parse v.compact = some v := by
  have scanned := scanValue_compact v kept (show _ ≤ 2 * v.compactChars.length + 2 by omega) .nil
  have text : v.compact.toList = v.compactChars := String.toList_ofList
  rw [List.append_nil] at scanned
  simp only [parse, text, scanned, Option.bind_eq_bind, Option.bind_some]
  rfl

end KeyRenewal.Json
