import Conveyor.Proofs.Text.Hex
import Conveyor.Proofs.Value.Verdict
import Conveyor.Proofs.Yaml.Layout

/-!
# The characters of written text

A written document holds only characters that a reader takes, and no carriage return, so that it is
still the same when it is read from a file: what is not escaped is no special character, and an
escape is made of letters and digits.
-/

set_option autoImplicit false

namespace Conveyor.Yaml

/-- The characters of written text. -/
def isPrinted (c : Char) : Bool := isAllowed c && c ≠ '\r'

theorem isAllowed_of_isPrinted {c : Char} (printed : isPrinted c = true) : isAllowed c = true := by
  simp only [isPrinted, Bool.and_eq_true] at printed
  exact printed.1

theorem noReturn_of_isPrinted {s : List Char} (printed : s.all isPrinted = true) : '\r' ∉ s :=
  fun there => absurd (List.all_eq_true.mp printed _ there) (by decide)

@[simp] theorem isPrinted_blank : isPrinted ' ' = true := by decide

@[simp] theorem isPrinted_lineFeed : isPrinted '\n' = true := by decide

@[simp] theorem all_isPrinted_pad (indent : Nat) : (pad indent).all isPrinted = true := by
  rw [List.all_eq_true]
  intro c there
  rw [List.eq_of_mem_replicate there]
  rfl

@[simp] theorem all_isPrinted_newline (indent : Nat) :
    (Scalar.newline indent).all isPrinted = true := by
  simp [Scalar.newline]

namespace Scalar

variable {s : List Char}

theorem isPrinted_of_between {c : Char} (printed : ('\x20' ≤ c ∧ c ≤ '\x7e') ∨
    ('\xa0' ≤ c ∧ c ≤ '\ufffd') ∨ 0x10000 ≤ c.toNat) : isPrinted c = true := by
  have noReturn : c ≠ '\r' := by
    rintro rfl
    exact absurd printed (by decide)
  simp only [isPrinted, isAllowed, Bool.and_eq_true, Bool.or_eq_true, decide_eq_true_eq]
  exact ⟨by tauto, by simpa using noReturn⟩

theorem isPrinted_of_not_isSpecial {c : Char} (usual : isSpecial c = false) :
    isPrinted c = true := by
  simp only [isSpecial, Bool.not_eq_false', Bool.or_eq_true, Bool.and_eq_true,
    decide_eq_true_eq] at usual
  rcases usual with ((rfl | ascii) | rfl) | ⟨plane | high, -⟩
  · rfl
  · exact isPrinted_of_between (.inl ascii)
  · decide
  · exact isPrinted_of_between (.inr (.inl plane))
  · exact isPrinted_of_between (.inr (.inr high.1))

theorem isPrinted_of_not_isEscaped {c : Char} (usual : isEscaped c = false) :
    isPrinted c = true := by
  simp only [isEscaped, Bool.or_eq_false_iff, Bool.not_eq_false', Bool.or_eq_true,
    Bool.and_eq_true, decide_eq_true_eq] at usual
  rcases usual.2 with ascii | plane
  · exact isPrinted_of_between (.inl ascii)
  · exact isPrinted_of_between (.inr (.inl plane))

theorem all_isPrinted_of_usual (usual : s.any isSpecial = false) : s.all isPrinted = true := by
  rw [List.all_eq_true]
  intro c there
  exact isPrinted_of_not_isSpecial (by simpa using List.any_eq_false.mp usual c there)

theorem all_isPrinted_escape (c : Char) : (escape c).all isPrinted = true := by
  have letters : shortEscapes.all (fun e => isPrinted e.2) = true := by decide
  have digits : Text.upperHexDigits.all isPrinted = true := by decide
  have hex (width n : Nat) : (Text.upperHex width n).all isPrinted = true := by
    rw [List.all_eq_true] at digits ⊢
    exact fun d there => digits d (Text.mem_upperHex d there)
  unfold escape
  split
  · rename_i letter short
    obtain ⟨before, after, split, -⟩ := List.lookup_eq_some_iff.mp short
    have printed := List.all_eq_true.mp letters (c, letter) (by simp [split])
    rw [List.all_cons, List.all_cons, printed]
    rfl
  · have marks : isPrinted '\\' = true ∧ isPrinted 'x' = true ∧ isPrinted 'u' = true ∧
        isPrinted 'U' = true := by decide
    split
    · simp [marks, hex]
    · split <;> simp [marks, hex]

theorem all_isPrinted_foldPlain (fold : Bool) (indent column : Nat) (blank : Bool)
    (printed : s.all isPrinted = true) :
    (foldPlain fold indent column blank s).all isPrinted = true := by
  induction s generalizing column blank with
  | nil => rfl
  | cons c s ih =>
      rw [List.all_cons, Bool.and_eq_true] at printed
      rw [foldPlain]
      split
      · rw [List.all_append, all_isPrinted_newline, ih _ _ printed.2]
        rfl
      · rw [List.all_cons, printed.1, ih _ _ printed.2]
        rfl

theorem all_isPrinted_foldSingle (fold : Bool) (indent column : Nat) (before : Option Char)
    (printed : s.all isPrinted = true) :
    (foldSingle fold indent column before s).all isPrinted = true := by
  induction s generalizing column before with
  | nil => rfl
  | cons c s ih =>
      rw [List.all_cons, Bool.and_eq_true] at printed
      rw [foldSingle]
      split
      · simp only [List.all_cons, ih _ _ printed.2, Bool.and_true]
        rfl
      · split
        · simp only [List.all_append, List.all_cons, printed.1, ih _ _ printed.2, List.all_nil,
            Bool.and_true]
          split <;> split <;> simp
        · split
          · rw [List.all_append, all_isPrinted_newline, ih _ _ printed.2]
            rfl
          · rw [List.all_cons, printed.1, ih _ _ printed.2]
            rfl

theorem all_isPrinted_foldDouble (fold : Bool) (indent column : Nat) (first fresh : Bool)
    (s : List Char) :
    (foldDouble fold indent column first fresh s).all isPrinted = true := by
  induction s generalizing column first fresh with
  | nil => rfl
  | cons c s ih =>
      have guard (p : Prop) [Decidable p] : (if p then ['\\'] else []).all isPrinted = true := by
        split <;> rfl
      rw [foldDouble]
      split
      · dsimp only
        split
        · simp only [List.all_append, List.all_cons, all_isPrinted_escape, all_isPrinted_newline,
            guard, ih]
          rfl
        · simp only [List.all_append, all_isPrinted_escape, ih]
          rfl
      · rename_i usual
        have printed := isPrinted_of_not_isEscaped (by simpa using usual)
        dsimp only
        split
        · simp only [List.all_append, List.all_cons, all_isPrinted_newline, guard,
            printed, ih]
          rfl
        · rw [List.all_cons, printed, ih]
          rfl

theorem all_isPrinted_literalLines (indent : Nat) (start : Bool)
    (printed : s.all isPrinted = true) :
    (literalLines indent start s).all isPrinted = true := by
  induction s generalizing start with
  | nil => cases start <;> rfl
  | cons c s ih =>
      rw [List.all_cons, Bool.and_eq_true] at printed
      rw [literalLines]
      split
      · rw [List.all_cons, printed.1, ih _ printed.2]
        rfl
      · rw [List.all_append, List.all_cons, printed.1, ih _ printed.2]
        cases start
        · rfl
        · simp

theorem all_isPrinted_literalHints (s : List Char) : (literalHints s).all isPrinted = true := by
  unfold literalHints
  rw [List.all_append, Bool.and_eq_true]
  refine ⟨by split <;> rfl, ?_⟩
  split
  · rfl
  · split <;> rfl
  · split
    · rfl
    · split <;> rfl

variable {s : Scalar} {key : Bool}

/-- A text with special characters is written between quotation marks. -/
theorem usual_of_style (unquoted : s.style key ≠ .double) : s.text.any isSpecial = false := by
  unfold style at unquoted
  split at unquoted
  · rename_i plain
    simp only [Bool.and_eq_true, allowsPlain, Bool.not_eq_true', Bool.or_eq_false_iff] at plain
    exact plain.1.2.1.2
  · split at unquoted
    · rename_i literal
      simp only [Bool.and_eq_true, allowsLiteral, Bool.not_eq_true', Bool.or_eq_false_iff] at literal
      exact literal.2.2
    · split at unquoted
      · rename_i single
        simp only [Bool.and_eq_true, allowsSingle, Bool.not_eq_true', Bool.or_eq_false_iff] at single
        exact single.1.2.2
      · exact absurd rfl unquoted

/-- A tag that is written in front of a scalar is made of such characters. -/
def ShowsTag (s : Scalar) : Prop :=
  ∀ key, s.needsTag (s.style key) = true → s.tag.short.toList.all isPrinted = true

theorem IsUntagged.showsTag (untagged : s.IsUntagged) : s.ShowsTag := fun key needs =>
  absurd needs (by simp [untagged.needsTag key])

theorem all_isPrinted_write (shows : s.ShowsTag) (key : Bool) (indent column : Nat) :
    (s.write key indent column).all isPrinted = true := by
  have tag : (if s.needsTag (s.style key) then s.tag.short.toList ++ [' '] else []).all isPrinted =
      true := by
    split
    · rename_i needs
      simp [shows key needs]
    · rfl
  have usual (unquoted : s.style key ≠ .double) := all_isPrinted_of_usual (usual_of_style unquoted)
  unfold write
  dsimp only
  rw [List.all_append, tag, Bool.true_and]
  cases style : s.style key with
  | plain => exact all_isPrinted_foldPlain _ _ _ _ (usual (by simp [style]))
  | single =>
      have quote : isPrinted '\'' = true := by decide
      have text (column : Nat) := all_isPrinted_foldSingle (!key) indent column none
        (usual (by simp [style]))
      simp [quote, text]
  | double =>
      have quote : isPrinted '"' = true := by decide
      have text (column : Nat) := all_isPrinted_foldDouble (!key) indent column true true s.text
      simp [quote, text]
  | literal =>
      have bar : isPrinted '|' = true := by decide
      have text := all_isPrinted_literalLines indent true (usual (by simp [style]))
      simp [bar, all_isPrinted_literalHints, text]

theorem all_isPrinted_scalarLine (shows : s.ShowsTag) (indent column : Nat) :
    (scalarLine indent column none s).all isPrinted = true := by
  have text := all_isPrinted_write shows false indent column
  have lineEnd : (if s.style false = .literal then [] else ['\n']).all isPrinted = true := by
    split <;> rfl
  simp [scalarLine, anchorLead, text, lineEnd]

/-- The tags of what is written are those of a repertory. -/
theorem showsTag_of_ofValue {v : Value} (written : ofValue v = .ok s) : s.ShowsTag := by
  have known : ∀ t ∈ [Tag.null, .bool, .int, .float, .str, .binary, .timestamp],
      t.short.toList.all isPrinted = true := by decide
  refine fun _ _ => known s.tag ?_
  cases v with
  | int n =>
      obtain ⟨numeral, -, same⟩ := bind_eq_ok_iff.mp written
      rw [← pure_eq_ok_iff.mp same]
      simp
  | list | tuple | map => cases written
  | null | bool | float | text | bytes | date | moment =>
      rw [← Except.ok.inj written]
      simp

end Scalar

namespace Tree

open Scalar

mutual

/-- A tree without anchors that shows its tags. -/
def Unnamed : Tree → Prop
  | .scalar anchor s => anchor = none ∧ s.ShowsTag
  | .sequence anchor xs => anchor = none ∧ UnnamedItems xs
  | .mapping anchor es => anchor = none ∧ UnnamedEntries es
  | .alias _ => False

/-- `Unnamed` for the items of a sequence. -/
def UnnamedItems : List Tree → Prop
  | [] => True
  | x :: xs => Unnamed x ∧ UnnamedItems xs

/-- `Unnamed` for the entries of a mapping. -/
def UnnamedEntries : List (Tree × Tree) → Prop
  | [] => True
  | (k, v) :: es => Unnamed k ∧ Unnamed v ∧ UnnamedEntries es

end

mutual

theorem Regular.unnamed : ∀ {room : Nat} {t : Tree}, Regular room t → Unnamed t
  | _, .scalar anchor s, regular => by
      rw [Regular] at regular
      exact ⟨regular.1, regular.2.showsTag⟩
  | _, .sequence anchor xs, regular => by
      rw [Regular] at regular
      exact ⟨regular.1, RegularItems.unnamed regular.2.2⟩
  | _, .mapping anchor es, regular => by
      rw [Regular] at regular
      exact ⟨regular.1, RegularEntries.unnamed regular.2.2⟩
  | _, .alias _, regular => by
      rw [Regular] at regular
      exact regular.elim

theorem RegularItems.unnamed : ∀ {room : Nat} {xs : List Tree}, RegularItems room xs →
    UnnamedItems xs
  | _, [], _ => trivial
  | _, x :: xs, regular => by
      rw [RegularItems] at regular
      exact ⟨Regular.unnamed regular.1, RegularItems.unnamed regular.2⟩

theorem RegularEntries.unnamed : ∀ {room : Nat} {es : List (Tree × Tree)},
    RegularEntries room es → UnnamedEntries es
  | _, [], _ => trivial
  | _, (k, v) :: es, regular => by
      rw [RegularEntries] at regular
      obtain ⟨⟨s, rfl, name⟩, value, rest⟩ := regular
      exact ⟨⟨rfl, name.untagged.showsTag⟩, Regular.unnamed value, RegularEntries.unnamed rest⟩

end

theorem unnamed_scalar {v : Value} {t : Tree}
    (written : Tree.scalar none <$> Scalar.ofValue v = .ok t) : Unnamed t := by
  cases made : Scalar.ofValue v with
  | error e =>
      rw [made] at written
      cases written
  | ok s =>
      rw [made] at written
      rw [← Except.ok.inj written]
      exact ⟨rfl, showsTag_of_ofValue made⟩

theorem unnamed_inside {room : Nat} {inside : Nat → Except Failure Tree} {t : Tree}
    (each : ∀ left t, inside left = .ok t → Unnamed t) (written : goInside room inside = .ok t) :
    Unnamed t := by
  cases room with
  | zero => cases written
  | succ left => exact each left t written

mutual

theorem unnamed_of_ofValue : ∀ {room : Nat} {v : Value} {t : Tree}, ofValue room v = .ok t →
    Unnamed t
  | room, .list xs, t, written | room, .tuple xs, t, written => by
      rw [ofValue] at written
      refine unnamed_inside (fun left u made => ?_) written
      cases items : ofItems left xs with
      | error e =>
          rw [items] at made
          cases made
      | ok ts =>
          rw [items] at made
          rw [← Except.ok.inj made]
          exact ⟨rfl, unnamedItems_of_ofItems items⟩
  | room, .map es, t, written => by
      rw [ofValue] at written
      refine unnamed_inside (fun left u made => ?_) written
      cases entries : ofEntries left es with
      | error e =>
          rw [entries] at made
          cases made
      | ok fs =>
          rw [entries] at made
          rw [← Except.ok.inj made]
          exact ⟨rfl, unnamedEntries_of_ofEntries entries⟩
  | _, .null, _, written | _, .bool _, _, written | _, .int _, _, written
  | _, .float _, _, written | _, .text _, _, written | _, .bytes _, _, written
  | _, .date _, _, written | _, .moment _, _, written => unnamed_scalar written

theorem unnamedItems_of_ofItems : ∀ {room : Nat} {xs : List Value} {ts : List Tree},
    ofItems room xs = .ok ts → UnnamedItems ts
  | _, [], _, written => by
      rw [ofItems] at written
      rw [← Except.ok.inj written]
      trivial
  | room, x :: xs, ts, written => by
      rw [ofItems] at written
      obtain ⟨t, item, written⟩ := bind_eq_ok_iff.mp written
      obtain ⟨more, rest, written⟩ := bind_eq_ok_iff.mp written
      rw [← pure_eq_ok_iff.mp written]
      exact ⟨unnamed_of_ofValue item, unnamedItems_of_ofItems rest⟩

theorem unnamedEntries_of_ofEntries : ∀ {room : Nat} {es : List (Value × Value)}
    {fs : List (Tree × Tree)}, ofEntries room es = .ok fs → UnnamedEntries fs
  | _, [], _, written => by
      rw [ofEntries] at written
      rw [← Except.ok.inj written]
      trivial
  | room, (k, v) :: es, fs, written => by
      rw [ofEntries] at written
      obtain ⟨key, keyed, written⟩ := bind_eq_ok_iff.mp written
      obtain ⟨value, valued, written⟩ := bind_eq_ok_iff.mp written
      obtain ⟨more, rest, written⟩ := bind_eq_ok_iff.mp written
      rw [← pure_eq_ok_iff.mp written]
      exact ⟨unnamed_of_ofValue keyed, unnamed_of_ofValue valued, unnamedEntries_of_ofEntries rest⟩

end

variable {indent : Nat}

theorem all_isPrinted_blockLead (indent : Nat) (position : Position) (isSequence : Bool) :
    (blockLead indent position none isSequence).1.all isPrinted = true := by
  cases position <;> cases isSequence <;> simp [blockLead]

theorem isPrinted_signs : isPrinted '-' = true ∧ isPrinted '?' = true ∧ isPrinted ':' = true ∧
    isPrinted '[' = true ∧ isPrinted ']' = true ∧ isPrinted '\x7b' = true ∧
    isPrinted '\x7d' = true := by
  decide

theorem all_isPrinted_simpleKey {k : Tree} (unnamed : Unnamed k) {key : List Char}
    (simple : simpleKey? indent k = some key) : key.all isPrinted = true := by
  cases k with
  | scalar anchor s =>
      obtain ⟨rfl, shows⟩ := unnamed
      simp only [simpleKey?, anchorLead] at simple
      split at simple
      · rw [← Option.some.inj simple]
        simp [all_isPrinted_write shows]
      · cases simple
  | sequence anchor xs =>
      obtain ⟨rfl, -⟩ := unnamed
      cases xs with
      | nil =>
          rw [← Option.some.inj simple]
          simp [anchorLead, isPrinted_signs]
      | cons => cases simple
  | mapping anchor es =>
      obtain ⟨rfl, -⟩ := unnamed
      cases es with
      | nil =>
          rw [← Option.some.inj simple]
          simp [anchorLead, isPrinted_signs]
      | cons => cases simple
  | «alias» name => exact unnamed.elim

mutual

theorem all_isPrinted_after : ∀ {t : Tree}, Unnamed t →
    ∀ indent column position, (after indent column position t).all isPrinted = true
  | .scalar anchor s, unnamed, indent, column, position => by
      obtain ⟨rfl, shows⟩ := unnamed
      simp [after, all_isPrinted_scalarLine shows]
  | .sequence anchor [], unnamed, indent, column, position => by
      obtain ⟨rfl, -⟩ := unnamed
      rw [after]
      rfl
  | .mapping anchor [], unnamed, indent, column, position => by
      obtain ⟨rfl, -⟩ := unnamed
      rw [after]
      rfl
  | .sequence anchor (x :: xs), unnamed, indent, column, position => by
      obtain ⟨rfl, items⟩ := unnamed
      simp [after, all_isPrinted_blockLead, all_isPrinted_listItems items]
  | .mapping anchor (e :: es), unnamed, indent, column, position => by
      obtain ⟨rfl, entries⟩ := unnamed
      simp [after, all_isPrinted_blockLead, all_isPrinted_mapEntries entries]
  | .alias _, unnamed, _, _, _ => unnamed.elim

theorem all_isPrinted_listItems : ∀ {xs : List Tree}, UnnamedItems xs →
    ∀ indent first, (listItems indent first xs).all isPrinted = true
  | [], _, _, _ => rfl
  | x :: xs, unnamed, indent, first => by
      have item := all_isPrinted_after unnamed.1 indent (indent + 1) .item
      have rest := all_isPrinted_listItems unnamed.2 indent false
      cases first <;> simp [listItems, isPrinted_signs, item, rest]

theorem all_isPrinted_mapEntries : ∀ {es : List (Tree × Tree)},
    UnnamedEntries es → ∀ indent first, (mapEntries indent first es).all isPrinted = true
  | [], _, _, _ => rfl
  | (k, v) :: es, unnamed, indent, first => by
      obtain ⟨key, value, rest⟩ := unnamed
      have rest := all_isPrinted_mapEntries rest indent false
      have value := all_isPrinted_after value indent
      have part := all_isPrinted_after key indent
      rw [mapEntries]
      cases simple : simpleKey? indent k with
      | none => cases first <;> simp [isPrinted_signs, part, value, rest]
      | some text =>
          have name := all_isPrinted_simpleKey key simple
          cases first <;> simp [isPrinted_signs, name, value, rest]

end

/-- **A document is made of characters that may be written.** -/
theorem all_isPrinted_document {t : Tree} (unnamed : Unnamed t) :
    (document t).all isPrinted = true := by
  have mark : endMark.all isPrinted = true := by decide
  have closing : (document.closing t).all isPrinted = true := by
    unfold document.closing
    split
    · exact mark
    · rfl
  cases t with
  | scalar anchor s =>
      obtain ⟨rfl, shows⟩ := unnamed
      have line := all_isPrinted_scalarLine shows step 0
      rw [document]
      split <;> simp [line, closing, mark]
  | sequence anchor xs =>
      obtain ⟨rfl, items⟩ := unnamed
      cases xs with
      | nil => rfl
      | cons x xs => simp [document, closing, all_isPrinted_listItems items]
  | mapping anchor es =>
      obtain ⟨rfl, entries⟩ := unnamed
      cases es with
      | nil => rfl
      | cons e es => simp [document, closing, all_isPrinted_mapEntries entries]
  | «alias» name => exact unnamed.elim

end Tree

/-- What is printed is made of characters that may be written. -/
theorem all_isPrinted_of_print {v : Value} {text : String} (printed : print v = .ok text) :
    text.toList.all isPrinted = true := by
  obtain ⟨t, written, same⟩ := bind_eq_ok_iff.mp printed
  rw [← pure_eq_ok_iff.mp same, String.toList_ofList]
  exact Tree.all_isPrinted_document (Tree.unnamed_of_ofValue written)

end Conveyor.Yaml
