import Custody.Proofs.Interpreter.Walks

/-!
# Literals tell data apart

Data are the objects that hold nothing but constants, texts and lists of data.
The literal of such an object can be read back: its first character says of
which kind it is, and from there on every character says whether the literal
goes on.  A text may contain quotes, backslashes, line breaks, brackets and
commas; they cannot be taken for the end of the text, because in a literal the
first two have a backslash in front of them and the others stand between quotes.

So two objects have the same literal exactly if they spell the same data, also
where the one shares its parts and the other has several of the same.
-/

namespace Custody

/-! ## Characters that are escaped -/

namespace Text

/-- A character that stands for itself in a literal. -/
structure Plain (char : Char) : Prop where
  notBackslash : char ≠ '\\'
  notQuote : char ≠ '\x27'
  notBreak : char ≠ '\n'

theorem Plain.literalChar_eq
    {char : Char}
    (plain : Plain char) :
    literalChar char = [char] := by
  rw [literalChar, if_neg plain.notBackslash, if_neg plain.notQuote, if_neg plain.notBreak]

theorem special_or_plain
    (char : Char) :
    char = '\\' ∨ char = '\x27' ∨ char = '\n' ∨ Plain char := by
  by_cases isBackslash : char = '\\'
  · exact .inl isBackslash
  · by_cases isQuote : char = '\x27'
    · exact .inr (.inl isQuote)
    · by_cases isBreak : char = '\n'
      · exact .inr (.inr (.inl isBreak))
      · exact .inr (.inr (.inr ⟨isBackslash, isQuote, isBreak⟩))

/-- A text with another text in place of one character. -/
def replaced
    (target : Char)
    (replacement text : List Char) :
    List Char :=
  text.flatMap fun char => if char = target then replacement else [char]

theorem replaced_append
    (target : Char)
    (replacement text text' : List Char) :
    replaced target replacement (text ++ text') =
      replaced target replacement text ++ replaced target replacement text' :=
  List.flatMap_append

/--
A literal is what three replacements make of the text, one after another.  The
backslashes come first, so that those of the other two are not replaced again.
-/
theorem flatMap_literalChar
    (text : List Char) :
    text.flatMap literalChar =
      replaced '\n' ['\\', 'n']
        (replaced '\x27' ['\\', '\x27'] (replaced '\\' ['\\', '\\'] text)) := by
  induction text with
  | nil => rfl
  | cons char rest step =>
      have one : literalChar char =
          replaced '\n' ['\\', 'n']
            (replaced '\x27' ['\\', '\x27'] (replaced '\\' ['\\', '\\'] [char])) := by
        rcases special_or_plain char with rfl | rfl | rfl | plain
        · rfl
        · rfl
        · rfl
        · simp [replaced, plain.literalChar_eq, plain.notBackslash, plain.notQuote, plain.notBreak]
      rw [List.flatMap_cons, step, one, ← replaced_append, ← replaced_append, ← replaced_append,
        List.singleton_append]

/-- The first character of a text that is written as in a literal, and what is left. -/
def readChar : List Char → Option (Char × List Char)
  | '\\' :: 'n' :: rest => some ('\n', rest)
  | '\\' :: char :: rest => some (char, rest)
  | char :: rest => some (char, rest)
  | [] => none

theorem readChar_literalChar
    (char : Char)
    (rest : List Char) :
    readChar (literalChar char ++ rest) = some (char, rest) := by
  rcases special_or_plain char with rfl | rfl | rfl | plain
  · rfl
  · rfl
  · rfl
  · have notBackslash := plain.notBackslash
    rw [plain.literalChar_eq, List.singleton_append]
    unfold readChar
    split <;> simp_all

/-- What is written for a character says which character it was. -/
theorem literalChar_append_inj
    {char char' : Char}
    {rest rest' : List Char}
    (same : literalChar char ++ rest = literalChar char' ++ rest') :
    char = char' ∧ rest = rest' := by
  have read := congrArg readChar same
  rw [readChar_literalChar, readChar_literalChar] at read
  simpa using read

/-- What is written for a character does not start with a quote. -/
theorem literalChar_append_ne
    (char : Char)
    (rest rest' : List Char) :
    literalChar char ++ rest ≠ '\x27' :: rest' := by
  rcases special_or_plain char with rfl | rfl | rfl | plain
  · simp [literalChar]
  · simp [literalChar]
  · simp [literalChar]
  · simp [plain.literalChar_eq, plain.notQuote]

/-- A text in a literal ends at the first quote that is not escaped. -/
theorem flatMap_literalChar_append_inj
    {text text' rest rest' : List Char}
    (same :
      text.flatMap literalChar ++ '\x27' :: rest =
        text'.flatMap literalChar ++ '\x27' :: rest') :
    text = text' ∧ rest = rest' := by
  induction text generalizing text' with
  | nil =>
      cases text' with
      | nil => simpa using same
      | cons char' others' =>
          rw [List.flatMap_cons, List.append_assoc] at same
          exact absurd same.symm (literalChar_append_ne char' _ rest)
  | cons char others step =>
      cases text' with
      | nil =>
          rw [List.flatMap_cons, List.append_assoc] at same
          exact absurd same (literalChar_append_ne char _ rest')
      | cons char' others' =>
          rw [List.flatMap_cons, List.flatMap_cons, List.append_assoc, List.append_assoc] at same
          rcases literalChar_append_inj same with ⟨rfl, later⟩
          rcases step later with ⟨rfl, left⟩
          exact ⟨rfl, left⟩

theorem toList_literal
    (text : String) :
    (literal text).toList = '\x27' :: (text.toList.flatMap literalChar ++ ['\x27']) := by
  simp [literal]

/-- A literal of a text says which text it was and where it ends. -/
theorem literal_append_inj
    {text text' : String}
    {rest rest' : List Char}
    (same : (literal text).toList ++ rest = (literal text').toList ++ rest') :
    text = text' ∧ rest = rest' := by
  rw [toList_literal, toList_literal, List.cons_append, List.cons_append, List.cons.injEq,
    List.append_assoc, List.append_assoc] at same
  rcases flatMap_literalChar_append_inj same.2 with ⟨chars, left⟩
  exact ⟨String.toList_inj.mp chars, left⟩

/-! ## Numbers -/

/-- The characters of a number say which number it was, if no digit stands after them. -/
theorem toDigits_append_inj
    {value value' : Nat}
    {rest rest' : List Char}
    (ends : ∀ char ∈ rest.head?, char.isDigit = false)
    (ends' : ∀ char ∈ rest'.head?, char.isDigit = false)
    (same : Nat.toDigits 10 value ++ rest = Nat.toDigits 10 value' ++ rest') :
    value = value' ∧ rest = rest' := by
  have digits (value : Nat) (char : Char) (among : char ∈ Nat.toDigits 10 value) :
      char.isDigit = true :=
    Nat.isDigit_of_mem_toDigits (by decide) (by decide) among
  have stops {rest : List Char} (ends : ∀ char ∈ rest.head?, char.isDigit = false) :
      rest.takeWhile Char.isDigit = [] := by
    cases rest with
    | nil => rfl
    | cons char others => simp [ends char rfl]
  have read := congrArg (List.takeWhile Char.isDigit) same
  rw [List.takeWhile_append_of_pos (digits value), List.takeWhile_append_of_pos (digits value'),
    stops ends, stops ends', List.append_nil, List.append_nil] at read
  rw [read, List.append_cancel_left_eq] at same
  refine ⟨?_, same⟩
  rw [← Nat.ofDigitChars_ten_toDigits (n := value), read, Nat.ofDigitChars_ten_toDigits]

theorem toList_toString
    (value : Int) :
    (toString value).toList =
      if 0 ≤ value then Nat.toDigits 10 value.toNat else '-' :: Nat.toDigits 10 (-value).toNat := by
  rw [Int.toString_eq_repr, Int.repr_eq_if]
  split
  · exact Nat.toList_repr
  · rw [String.toList_append, Nat.toList_repr]
    rfl

private theorem toDigits_append_ne
    (value : Nat)
    (rest rest' : List Char) :
    Nat.toDigits 10 value ++ rest ≠ '-' :: rest' := by
  intro same
  cases written : Nat.toDigits 10 value with
  | nil => exact Nat.toDigits_ne_nil written
  | cons char others =>
      have isDigit : char.isDigit = true :=
        Nat.isDigit_of_mem_toDigits (by decide) (by decide) (written ▸ List.mem_cons_self)
      rw [written, List.cons_append, List.cons.injEq] at same
      rw [same.1] at isDigit
      exact absurd isDigit (by decide)

theorem toString_append_inj
    {value value' : Int}
    {rest rest' : List Char}
    (ends : ∀ char ∈ rest.head?, char.isDigit = false)
    (ends' : ∀ char ∈ rest'.head?, char.isDigit = false)
    (same : (toString value).toList ++ rest = (toString value').toList ++ rest') :
    value = value' ∧ rest = rest' := by
  rw [toList_toString, toList_toString] at same
  split at same <;> split at same
  · rcases toDigits_append_inj ends ends' same with ⟨number, left⟩
    exact ⟨by omega, left⟩
  · exact absurd same (toDigits_append_ne _ _ _)
  · exact absurd same.symm (toDigits_append_ne _ _ _)
  · rw [List.cons_append, List.cons_append, List.cons.injEq] at same
    rcases toDigits_append_inj ends ends' same.2 with ⟨number, left⟩
    exact ⟨by omega, left⟩

end Text

/-! ## Data -/

/-- What an object that is data holds, with all that stands below it. -/
inductive Datum where
  | none
  | bool (value : Bool)
  | int (value : Int)
  | str (value : String)
  | list (items : List Datum)

namespace Datum

mutual

/-- The characters of the literal of data. -/
def literal : Datum → List Char
  | .none => "None".toList
  | .bool true => "True".toList
  | .bool false => "False".toList
  | .int value => (toString value).toList
  | .str value => (Text.literal value).toList
  | .list [] => ['[', ']']
  | .list (first :: others) => '[' :: (first.literal ++ remaining others)

/-- The characters that stand in a list after the first of its items. -/
def remaining : List Datum → List Char
  | [] => [']']
  | next :: others => ',' :: ' ' :: (next.literal ++ remaining others)

end

/-- What may stand after a literal: nothing, or what goes on with a list. -/
def Ends (rest : List Char) : Prop :=
  ∀ char ∈ rest.head?, char = ',' ∨ char = ']'

theorem ends_nil : Ends [] := by
  simp [Ends]

theorem ends_remaining
    (items : List Datum)
    (rest : List Char) :
    Ends (remaining items ++ rest) := by
  cases items <;> simp [Ends, remaining]

theorem Ends.not_isDigit
    {rest : List Char}
    (ends : Ends rest) :
    ∀ char ∈ rest.head?, char.isDigit = false := by
  intro char first
  rcases ends char first with rfl | rfl <;> rfl

/-- The kinds of data. -/
inductive Kind where
  | none
  | bool
  | int
  | str
  | list
deriving DecidableEq

def kind : Datum → Kind
  | .none => .none
  | .bool _ => .bool
  | .int _ => .int
  | .str _ => .str
  | .list _ => .list

/-- The kind of data that a literal with a certain first character spells. -/
def kindOf (char : Char) : Option Kind :=
  if char = 'N' then some .none
  else if char = 'T' ∨ char = 'F' then some .bool
  else if char = '-' ∨ char.isDigit = true then some .int
  else if char = '\x27' then some .str
  else if char = '[' then some .list
  else Option.none

theorem kindOf_of_isDigit
    {char : Char}
    (isDigit : char.isDigit = true) :
    kindOf char = some .int := by
  have other (special : Char) (notDigit : special.isDigit = false) : char ≠ special := by
    rintro rfl
    simp [isDigit] at notDigit
  simp [kindOf, other 'N' rfl, other 'T' rfl, other 'F' rfl, isDigit]

/-- The first character of a literal says what kind of data it spells. -/
theorem exists_literal_eq_cons
    (datum : Datum) :
    ∃ char others, datum.literal = char :: others ∧ kindOf char = some datum.kind := by
  cases datum with
  | none => exact ⟨_, _, rfl, rfl⟩
  | bool value => cases value <;> exact ⟨_, _, rfl, rfl⟩
  | int value =>
      rw [literal, Text.toList_toString]
      split
      · cases written : Nat.toDigits 10 value.toNat with
        | nil => exact absurd written Nat.toDigits_ne_nil
        | cons char others =>
            refine ⟨char, others, rfl, kindOf_of_isDigit ?_⟩
            exact Nat.isDigit_of_mem_toDigits (by decide) (by decide) (written ▸ List.mem_cons_self)
      · exact ⟨_, _, rfl, rfl⟩
  | str value => exact ⟨_, _, Text.toList_literal value, rfl⟩
  | list items => cases items <;> exact ⟨_, _, rfl, rfl⟩

theorem kind_eq
    {datum datum' : Datum}
    {rest rest' : List Char}
    (same : datum.literal ++ rest = datum'.literal ++ rest') :
    datum.kind = datum'.kind := by
  rcases datum.exists_literal_eq_cons with ⟨char, others, written, spells⟩
  rcases datum'.exists_literal_eq_cons with ⟨char', others', written', spells'⟩
  rw [written, written', List.cons_append, List.cons_append, List.cons.injEq] at same
  rw [← Option.some_inj, ← spells, ← spells', same.1]

/-- A literal does not start with what ends a list. -/
theorem literal_append_ne
    (datum : Datum)
    (rest rest' : List Char) :
    datum.literal ++ rest ≠ ']' :: rest' := by
  rcases datum.exists_literal_eq_cons with ⟨char, others, written, spells⟩
  intro same
  rw [written, List.cons_append, List.cons.injEq] at same
  rw [same.1] at spells
  cases spells

mutual

/-- A literal says which data it spells and where it ends. -/
theorem literal_append_inj
    (datum datum' : Datum)
    {rest rest' : List Char}
    (ends : Ends rest)
    (ends' : Ends rest')
    (same : datum.literal ++ rest = datum'.literal ++ rest') :
    datum = datum' ∧ rest = rest' := by
  have alike := kind_eq same
  cases datum with
  | none =>
      cases datum' <;> simp_all [kind, literal]
  | bool value =>
      cases datum' with
      | bool value' => cases value <;> cases value' <;> simp_all [literal]
      | _ => cases alike
  | int value =>
      cases datum' with
      | int value' =>
          rcases Text.toString_append_inj ends.not_isDigit ends'.not_isDigit same with ⟨rfl, left⟩
          exact ⟨rfl, left⟩
      | _ => cases alike
  | str value =>
      cases datum' with
      | str value' =>
          rcases Text.literal_append_inj same with ⟨rfl, left⟩
          exact ⟨rfl, left⟩
      | _ => cases alike
  | list items =>
      cases datum' with
      | list items' =>
          rcases items with - | ⟨first, others⟩ <;> rcases items' with - | ⟨first', others'⟩
          · simpa [literal] using same
          · simp only [literal, List.cons_append, List.cons.injEq, true_and] at same
            rw [List.append_assoc] at same
            exact absurd same.symm (literal_append_ne first' _ _)
          · simp only [literal, List.cons_append, List.cons.injEq, true_and] at same
            rw [List.append_assoc] at same
            exact absurd same (literal_append_ne first _ _)
          · simp only [literal, List.cons_append, List.append_assoc, List.cons.injEq,
              true_and] at same
            rcases literal_append_inj first first' (ends_remaining _ _) (ends_remaining _ _) same
              with ⟨rfl, later⟩
            rcases remaining_append_inj others others' later with ⟨rfl, left⟩
            exact ⟨rfl, left⟩
      | _ => cases alike

theorem remaining_append_inj
    (items items' : List Datum)
    {rest rest' : List Char}
    (same : remaining items ++ rest = remaining items' ++ rest') :
    items = items' ∧ rest = rest' := by
  cases items with
  | nil =>
      cases items' <;> simp_all [remaining]
  | cons next others =>
      cases items' with
      | nil => simp [remaining] at same
      | cons next' others' =>
          simp only [remaining, List.cons_append, List.append_assoc, List.cons.injEq,
            true_and] at same
          rcases literal_append_inj next next' (ends_remaining _ _) (ends_remaining _ _) same with
            ⟨rfl, later⟩
          rcases remaining_append_inj others others' later with ⟨rfl, left⟩
          exact ⟨rfl, left⟩

end

end Datum

/-! ## Objects that are data -/

theorem List.mapM_map_of_mapM
    {α β γ : Type}
    {items : List α}
    {change : α → Option β}
    {change' : α → Option γ}
    {further : β → γ}
    {parts : List β}
    (each : ∀ item part, change item = some part → change' item = some (further part))
    (mapped : items.mapM change = some parts) :
    items.mapM change' = some (parts.map further) := by
  induction items generalizing parts with
  | nil =>
      cases mapped
      rfl
  | cons item rest step =>
      simp only [List.mapM_cons, Option.bind_eq_bind, Option.bind_eq_some_iff, Option.pure_def,
        Option.some.injEq] at mapped ⊢
      rcases mapped with ⟨part, first, others, later, rfl⟩
      exact ⟨_, each item part first, _, step later, rfl⟩

namespace Heap

variable {heap : Heap} {handle left right : Handle} {depth : Nat} {datum : Datum}

/-- Whether an object is there and of a kind that data are made of. -/
def isDatum (heap : Heap) (handle : Handle) : Bool :=
  match heap.payload? handle with
  | some .none | some (.bool _) | some (.int _) | some (.str _) | some (.list _) => true
  | _ => false

/-- All that is below an object is data if the object is among data that hold only each other. -/
theorem isDatum_of_closed
    (among : List Handle)
    (isAmong : handle ∈ among)
    (closed :
      ∀ member ∈ among,
        heap.isDatum member = true ∧
          ∀ payload ∈ heap.payload? member, ∀ child ∈ payload.children, child ∈ among) :
    ∀ part, heap.Reaches handle part → heap.isDatum part = true := by
  have within (part : Handle) (reaches : heap.Reaches handle part) : part ∈ among := by
    induction reaches with
    | refl => exact isAmong
    | tail _ points isMember =>
        rcases points with ⟨payload, holds, isChild⟩
        exact (closed _ isMember).2 payload holds _ isChild
  exact fun part reaches => (closed part (within part reaches)).1

/-- The data that an object spells whose references are at most `depth` deep. -/
def datumWithin (heap : Heap) : Nat → Handle → Option Datum
  | 0, _ => none
  | depth + 1, handle =>
      match heap.payload? handle with
      | some .none => some .none
      | some (.bool value) => some (.bool value)
      | some (.int value) => some (.int value)
      | some (.str value) => some (.str value)
      | some (.list items) => (items.mapM (heap.datumWithin depth)).map .list
      | _ => none

/-- The data that an object spells. -/
def datum? (heap : Heap) (handle : Handle) : Option Datum :=
  heap.datumWithin heap.reach handle

/-- Where all that is below an object is data and walks end, it spells data. -/
theorem isSome_datumWithin
    (data : ∀ part, heap.Reaches handle part → heap.isDatum part = true)
    (ends : EndsWithin heap.Holds depth handle) :
    (heap.datumWithin depth handle).isSome = true := by
  induction depth generalizing handle with
  | zero => exact ends.elim
  | succ depth step =>
      have isDatum := data handle .refl
      rw [Heap.isDatum] at isDatum
      rw [datumWithin]
      split at isDatum
      · rfl
      · rfl
      · rfl
      · rfl
      · next items holds =>
          rw [Option.isSome_map, List.isSome_mapM_iff]
          intro item among
          refine step (fun part reaches => ?_) (ends item (holds_of_mem_items holds among))
          exact data part (.head ⟨_, holds, among⟩ reaches)
      · cases isDatum

/-- The literals of the items of a list, with the brackets around them. -/
theorem toList_bracketed
    (data : List Datum) :
    ("[" ++ commaSeparated (data.map fun datum => String.ofList datum.literal) ++ "]").toList =
      (Datum.list data).literal := by
  cases data with
  | nil => rfl
  | cons first others =>
      have listed (first : Datum) (others : List Datum) :
          (commaSeparated
              ((first :: others).map fun datum => String.ofList datum.literal)).toList ++ [']'] =
            first.literal ++ Datum.remaining others := by
        induction others generalizing first with
        | nil => simp [commaSeparated, Datum.remaining]
        | cons next rest step =>
            rw [Datum.remaining, ← step next]
            simp [commaSeparated]
      simpa [Datum.literal] using listed first others

theorem reprWithin_of_datumWithin
    (spells : heap.datumWithin depth handle = some datum) :
    heap.reprWithin depth handle = some (String.ofList datum.literal) := by
  induction depth generalizing handle datum with
  | zero => cases spells
  | succ depth step =>
      rw [datumWithin] at spells
      split at spells
      · next holds =>
          cases spells
          simp [reprWithin, holds, Datum.literal]
      · next value holds =>
          cases spells
          cases value <;> simp [reprWithin, holds, Datum.literal]
      · next holds =>
          cases spells
          simp [reprWithin, holds, Datum.literal]
      · next holds =>
          cases spells
          simp [reprWithin, holds, Datum.literal]
      · next items holds =>
          rcases Option.map_eq_some_iff.mp spells with ⟨data, each, rfl⟩
          have written := List.mapM_map_of_mapM (fun _ _ => step) each
          rw [reprWithin, holds]
          simp only [written, Option.map_some, ← toList_bracketed, String.ofList_toList]
      · cases spells

/-- The literal of an object that spells data is the one of the data. -/
theorem repr_of_datum?
    (spells : heap.datum? handle = some datum) :
    heap.repr handle = String.ofList datum.literal := by
  rw [repr, reprWithin_of_datumWithin spells, Option.getD_some]

end Heap

namespace Interpreter

variable {interp : Interpreter} {left right : Handle}

/--
As long as there were fewer allocations than there are handles, two objects all of
whose parts are data have the same literal exactly if they spell the same data.
-/
theorem repr_tells_data_apart
    (visited : Visited interp)
    (room : interp.heap.HasRoom)
    (data : ∀ part, interp.heap.Reaches left part → interp.heap.isDatum part = true)
    (data' : ∀ part, interp.heap.Reaches right part → interp.heap.isDatum part = true) :
    ∃ datum datum',
      interp.heap.datum? left = some datum ∧
        interp.heap.datum? right = some datum' ∧
          (interp.heap.repr left = interp.heap.repr right ↔ datum = datum') := by
  have founded := visited.founded.heap room
  have ends := founded.endsWithin le_rfl
  rcases Option.isSome_iff_exists.mp (Heap.isSome_datumWithin data (ends left)) with
    ⟨datum, spells⟩
  rcases Option.isSome_iff_exists.mp (Heap.isSome_datumWithin data' (ends right)) with
    ⟨datum', spells'⟩
  refine ⟨datum, datum', spells, spells', ?_⟩
  rw [Heap.repr_of_datum? spells, Heap.repr_of_datum? spells']
  constructor
  · intro same
    have chars : datum.literal ++ [] = datum'.literal ++ [] := by
      simpa using String.ofList_injective same
    exact (datum.literal_append_inj datum' Datum.ends_nil Datum.ends_nil chars).1
  · rintro rfl
    rfl

/-- A list of one text that looks like two, and a list of two texts. -/
def lookalikes : Interpreter :=
  [ Call.newObject (.str "a', 'b"),
    .newObject (.list [⟨53, 0⟩]),
    .newObject (.str "a"),
    .newObject (.str "b"),
    .newObject (.list [⟨55, 0⟩, ⟨56, 0⟩]) ].foldl
    (fun interp call => (call.perform interp).2) initial

private theorem visited_lookalikes : Visited lookalikes := by
  have quoted := Visited.initial.follow (.newObject (.str "a', 'b")) (by decide +kernel)
  have one := quoted.follow (.newObject (.list [⟨53, 0⟩])) (by decide +kernel)
  have first := one.follow (.newObject (.str "a")) (by decide +kernel)
  have second := first.follow (.newObject (.str "b")) (by decide +kernel)
  exact second.follow (.newObject (.list [⟨55, 0⟩, ⟨56, 0⟩])) (by decide +kernel)

/-- The quotes within the one text are not taken for its end. -/
theorem repr_tells_data_apart_lookalikes :
    lookalikes.heap.repr ⟨54, 0⟩ = "['a\\', \\'b']" ∧
      lookalikes.heap.repr ⟨57, 0⟩ = "['a', 'b']" ∧
        ∃ datum datum',
          lookalikes.heap.datum? ⟨54, 0⟩ = some datum ∧
            lookalikes.heap.datum? ⟨57, 0⟩ = some datum' ∧
              (lookalikes.heap.repr ⟨54, 0⟩ = lookalikes.heap.repr ⟨57, 0⟩ ↔
                datum = datum') := by
  refine ⟨by decide +kernel, by decide +kernel, ?_⟩
  refine repr_tells_data_apart visited_lookalikes (by decide +kernel) ?_ ?_
  · exact Heap.isDatum_of_closed [⟨54, 0⟩, ⟨53, 0⟩] List.mem_cons_self (by decide +kernel)
  · exact Heap.isDatum_of_closed [⟨57, 0⟩, ⟨55, 0⟩, ⟨56, 0⟩] List.mem_cons_self
      (by decide +kernel)

end Interpreter

end Custody
