import Conveyor.Proofs.Yaml.Keys

/-!
# The tokens of a tree

A tree without anchors, whose scalars need no tags and whose keys are short texts, has tokens that
are known from the tree alone.  Its text leads to these tokens: the items of a list and the entries
of a mapping are followed one after the other, each up to the line on which the next one starts.
-/

set_option autoImplicit false

namespace Conveyor.Yaml

/-- The greatest number of characters of a key. -/
def longestName : Nat := 100

/-- A text that may be the key of an entry. -/
structure Scalar.IsName (s : Scalar) : Prop where
  untagged : s.IsUntagged
  isText : s.tag = .str
  short : s.text.length ≤ longestName

namespace Tree

mutual

/-- A tree without anchors and tags in which collections are nested up to a depth. -/
def Regular (room : Nat) : Tree → Prop
  | .scalar anchor s => anchor = none ∧ s.IsUntagged
  | .sequence anchor xs => anchor = none ∧ 0 < room ∧ RegularItems (room - 1) xs
  | .mapping anchor es => anchor = none ∧ 0 < room ∧ RegularEntries (room - 1) es
  | .alias _ => False

/-- The items of a regular sequence. -/
def RegularItems (room : Nat) : List Tree → Prop
  | [] => True
  | x :: xs => Regular room x ∧ RegularItems room xs

/-- The entries of a regular mapping. -/
def RegularEntries (room : Nat) : List (Tree × Tree) → Prop
  | [] => True
  | (k, v) :: es =>
    (∃ s, k = .scalar none s ∧ s.IsName) ∧ Regular room v ∧ RegularEntries room es

end

/-- Whether a key stands right before its colon. -/
def isSimple (s : Scalar) : Bool := !s.text.isEmpty && !Scalar.isMultiline s.text

/-- The token of a key. -/
def keyToken : Tree → List Token
  | .scalar _ s => [.scalar s.text (s.style (isSimple s) = .plain)]
  | _ => []

/-- Where the value of a key stands. -/
def valuePosition : Tree → Position
  | .scalar _ s => if isSimple s then .below else .part
  | _ => .part

mutual

/-- The tokens of a tree.  The items of a list on the lines below a key are no block. -/
def tokens (position : Position) : Tree → List Token
  | .scalar _ s => [.scalar s.text (s.style false = .plain)]
  | .sequence _ [] => [.flowSequenceStart, .flowSequenceEnd]
  | .mapping _ [] => [.flowMappingStart, .flowMappingEnd]
  | .sequence _ xs =>
    if position = .below then itemTokens xs
    else .blockSequenceStart :: itemTokens xs ++ [.blockEnd]
  | .mapping _ es => .blockMappingStart :: entryTokens es ++ [.blockEnd]
  | .alias name => [.alias name]

/-- The tokens of the items of a list. -/
def itemTokens : List Tree → List Token
  | [] => []
  | x :: xs => .blockEntry :: tokens .item x ++ itemTokens xs

/-- The tokens of the entries of a mapping. -/
def entryTokens : List (Tree × Tree) → List Token
  | [] => []
  | (k, v) :: es => .key :: keyToken k ++ .value :: tokens (valuePosition k) v ++ entryTokens es

end

section

variable (position : Position) (anchor : Option (List Char)) (x : Tree) (xs : List Tree)
  (e : Tree × Tree) (es : List (Tree × Tree))

theorem tokens_sequence_below :
    tokens .below (.sequence anchor (x :: xs)) = itemTokens (x :: xs) := by
  simp [tokens]

variable {position} in
theorem tokens_sequence_own (own : position ≠ .below) :
    tokens position (.sequence anchor (x :: xs)) =
      .blockSequenceStart :: (itemTokens (x :: xs) ++ [.blockEnd]) := by
  simp [tokens, own]

theorem tokens_mapping :
    tokens position (.mapping anchor (e :: es)) =
      .blockMappingStart :: (entryTokens (e :: es) ++ [.blockEnd]) := by
  simp [tokens]

end

/-! ## What passes a reader -/

open Conveyor.Yaml.Lex

variable {room indent col column : Nat} {blocks outer : List Nat} {X Y : List Char}
  {ts ts' : List Token} {allows isNew : Bool}

/-- A text with its line end, up to the first line that starts no further right than the innermost
of the blocks that it stands in: it makes some tokens, whatever was made before it. -/
structure Passes (blocks : List Nat) (allows : Bool) (col : Nat) (X : List Char) (indent : Nat)
    (outer : List Nat) (ts : List Token) : Prop where
  solid : ∀ r, Solid (X ++ r)
  leads : ∀ made k body, k ≤ indent → Solid body →
    Leads ⟨blocks, made, allows, col, X ++ (List.replicate k ' ' ++ body)⟩
      ⟨kept k (indent :: outer), made ++ ts ++ ends k (indent :: outer), true, k, body⟩

namespace Passes

/-- The next line at the indentation of the block. -/
theorem cons (first : Passes blocks allows col X indent outer ts)
    (next : Passes (indent :: outer) true indent Y indent outer ts') :
    Passes blocks allows col (X ++ pad indent ++ Y) indent outer (ts ++ ts') := by
  refine ⟨fun r => ?_, fun made k body below solid => ?_⟩
  · rw [List.append_assoc, List.append_assoc]
    exact first.solid _
  · have leads := first.leads made indent (Y ++ (List.replicate k ' ' ++ body)) (Nat.le_refl _)
      (next.solid _)
    rw [kept_of_le (Nat.le_refl _), ends_of_le (Nat.le_refl _), List.append_nil] at leads
    have leads' := next.leads (made ++ ts) k body below solid
    simp only [pad, List.append_assoc] at leads leads' ⊢
    exact leads.trans leads'

/-- A block of its own ends before the next line of the block around it. -/
theorem close {inner : Nat} (passes : Passes blocks allows col X inner (indent :: outer) ts)
    (right : indent < inner) :
    Passes blocks allows col X indent outer (ts ++ [.blockEnd]) := by
  refine ⟨passes.solid, fun made k body below solid => ?_⟩
  have leads := passes.leads made k body (Nat.le_of_lt (Nat.lt_of_le_of_lt below right)) solid
  have left : k < inner := Nat.lt_of_le_of_lt below right
  rw [kept_of_lt left, ends_of_lt left] at leads
  simpa using leads

theorem hyphen (opens : Opens indent blocks (indent :: outer) isNew)
    (item : Passes (indent :: outer) true (indent + 2) X indent outer ts) :
    Passes blocks true indent ('-' :: ' ' :: X) indent outer
      (startOf .blockSequenceStart isNew ++ .blockEntry :: ts) := by
  refine ⟨fun r c there => ?_, fun made k body below solid => ?_⟩
  · cases there
    decide
  · have leads := item.leads (made ++ startOf .blockSequenceStart isNew ++ [.blockEntry]) k body
      below solid
    have sign := hyphen_leads made opens (item.solid (List.replicate k ' ' ++ body))
    simpa using sign.trans leads

theorem question (opens : Opens indent blocks (indent :: outer) isNew)
    (key : Passes (indent :: outer) true (indent + 2) X indent outer ts) :
    Passes blocks true indent ('?' :: ' ' :: X) indent outer
      (startOf .blockMappingStart isNew ++ .key :: ts) := by
  refine ⟨fun r c there => ?_, fun made k body below solid => ?_⟩
  · cases there
    decide
  · have leads := key.leads (made ++ startOf .blockMappingStart isNew ++ [.key]) k body below solid
    have sign := question_leads made opens (key.solid (List.replicate k ' ' ++ body))
    simpa using sign.trans leads

theorem colon (value : Passes (indent :: outer) true (indent + 2) X indent outer ts) :
    Passes (indent :: outer) true indent (':' :: ' ' :: X) indent outer (.value :: ts) := by
  refine ⟨fun r c there => ?_, fun made k body below solid => ?_⟩
  · cases there
    decide
  · have leads := value.leads (made ++ [.value]) k body below solid
    have sign := colon_leads made indent outer (value.solid (List.replicate k ' ' ++ body))
    simpa using sign.trans leads

section

variable {w text : List Char} {isPlain : Bool}

theorem key_solid {r : List Char} {made : List Token}
    (key : ReadsKey blocks made indent w r text isPlain) : Solid (w ++ ':' :: r) := by
  obtain ⟨c, rest, start, solid, -⟩ := key.reads
  rwa [start]

/-- A key with its value on the same line. -/
theorem key_here (key : ∀ made r, atGap r = true → ReadsKey blocks made indent w r text isPlain)
    (opens : Opens indent blocks (indent :: outer) isNew)
    (value : Passes (indent :: outer) false (indent + w.length + 2) X indent outer ts) :
    Passes blocks true indent (w ++ ':' :: ' ' :: X) indent outer
      (startOf .blockMappingStart isNew ++ .key :: .scalar text isPlain :: .value :: ts) := by
  refine ⟨fun r => ?_, fun made k body below solid => ?_⟩
  · simpa using key_solid (key [] (' ' :: (X ++ r)) rfl)
  · have leads := value.leads (made ++ startOf .blockMappingStart isNew ++
      [.key, .scalar text isPlain, .value]) k body below solid
    have sign := (key made _ rfl).leads_here opens (value.solid (List.replicate k ' ' ++ body))
    simpa using sign.trans leads

/-- A key with its value on the next line. -/
theorem key_line {inner : Nat}
    (key : ∀ made r, atGap r = true → ReadsKey blocks made indent w r text isPlain)
    (opens : Opens indent blocks (indent :: outer) isNew) (right : indent ≤ inner)
    (value : Passes (indent :: outer) true inner X indent outer ts) :
    Passes blocks true indent (w ++ ':' :: '\n' :: pad inner ++ X) indent outer
      (startOf .blockMappingStart isNew ++ .key :: .scalar text isPlain :: .value :: ts) := by
  refine ⟨fun r => ?_, fun made k body below solid => ?_⟩
  · simpa using key_solid (key [] ('\n' :: (pad inner ++ (X ++ r))) rfl)
  · have leads := value.leads (made ++ startOf .blockMappingStart isNew ++
      [.key, .scalar text isPlain, .value]) k body below solid
    have sign := (key made _ rfl).leads_line opens right
      (value.solid (List.replicate k ' ' ++ body))
    simpa [pad] using sign.trans leads

end

/-! ## Trees that take no lines of their own -/

theorem sequence (right : indent < col) :
    Passes (indent :: outer) allows col ['[', ']', '\n'] indent outer
      [.flowSequenceStart, .flowSequenceEnd] := by
  refine ⟨fun r c there => ?_, fun made k body below solid => ?_⟩
  · cases there
    decide
  · refine empty_sequence_leads (fun d there => ?_) solid
    cases there
    exact Nat.ne_of_lt right

theorem mapping (right : indent < col) :
    Passes (indent :: outer) allows col ['\x7b', '\x7d', '\n'] indent outer
      [.flowMappingStart, .flowMappingEnd] := by
  refine ⟨fun r c there => ?_, fun made k body below solid => ?_⟩
  · cases there
    decide
  · refine empty_mapping_leads (fun d there => ?_) solid
    cases there
    exact Nat.ne_of_lt right

theorem scalar {s : Scalar} (untagged : s.IsUntagged) (narrow : indent + 3 ≤ Scalar.lineWidth)
    (right : indent < col) (column : Nat) :
    Passes (indent :: outer) allows col (scalarLine (indent + 2) column none s) indent outer
      [.scalar s.text (s.style false = .plain)] := by
  have wide : max 1 (indent + 1) = indent + 1 := Nat.max_eq_right (Nat.succ_pos _)
  refine ⟨solid_scalarLine untagged _ _, fun made k body below solid => ?_⟩
  have left : margin (indent :: outer) ≤ col := Nat.succ_le_of_lt right
  have leads := scalar_leads made allows column untagged left
    (by simp only [margin, wide]; omega) (by simp only [margin, wide]; omega)
    (fun _ => .inl (Nat.lt_succ_of_le below)) solid
  rw [margin, wide] at leads
  exact leads

end Passes

/-! ## Trees behind an indicator -/

/-- Whether collections nested up to a depth leave room on a line. -/
def Fits (indent room : Nat) : Prop := indent + 2 * room + 4 ≤ Scalar.lineWidth

theorem Fits.inner (fits : Fits indent room) (some_ : 0 < room) : Fits (indent + 2) (room - 1) := by
  unfold Fits at *
  omega

theorem Fits.less (fits : Fits indent room) : Fits indent (room - 1) := by
  unfold Fits at *
  omega

/-- A tree behind a sign, and behind a key: there it goes on either on the same line or on the next
one. -/
structure Written (room : Nat) (t : Tree) : Prop where
  behindSign : ∀ indent outer column position, position ≠ .below → Fits indent room →
    ∃ X, after indent column position t = ' ' :: X ∧
      Passes (indent :: outer) true (indent + 2) X indent outer (tokens position t)
  behindKey : ∀ indent outer column, Fits indent room →
    (∃ X, after indent column .below t = ' ' :: X ∧ ∀ col, indent < col →
      Passes (indent :: outer) false col X indent outer (tokens .below t)) ∨
    ∃ inner X, after indent column .below t = '\n' :: pad inner ++ X ∧ indent ≤ inner ∧
      Passes (indent :: outer) true inner X indent outer (tokens .below t)

/-- The items of a list pass where their block opens or goes on. -/
def ItemsWritten (room : Nat) (xs : List Tree) : Prop :=
  ∀ indent blocks outer isNew, xs ≠ [] → Fits indent room →
    Opens indent blocks (indent :: outer) isNew →
    Passes blocks true indent (listItems indent true xs) indent outer
      (startOf .blockSequenceStart isNew ++ itemTokens xs)

/-- The entries of a mapping pass where their block opens or goes on. -/
def EntriesWritten (room : Nat) (es : List (Tree × Tree)) : Prop :=
  ∀ indent blocks outer isNew, es ≠ [] → Fits indent room →
    Opens indent blocks (indent :: outer) isNew →
    Passes blocks true indent (mapEntries indent true es) indent outer
      (startOf .blockMappingStart isNew ++ entryTokens es)

/-- What stays on its line in any place. -/
theorem Written.of_line {t : Tree} {X : Nat → Nat → List Char}
    (line : ∀ indent column position, after indent column position t = ' ' :: X indent column)
    (passes : ∀ indent outer column position allows col, Fits indent room → indent < col →
      Passes (indent :: outer) allows col (X indent column) indent outer (tokens position t)) :
    Written room t where
  behindSign indent outer column position _ fits :=
    ⟨_, line _ _ _, passes _ _ _ _ _ _ fits (by omega)⟩
  behindKey indent outer column fits :=
    .inl ⟨_, line _ _ _, fun _ right => passes _ _ _ _ _ _ fits right⟩

theorem written_scalar {s : Scalar} (untagged : s.IsUntagged) : Written room (.scalar none s) := by
  refine .of_line (X := fun indent column => scalarLine (indent + step) (column + 1) none s)
    (fun indent column position => by rw [after]) ?_
  intro indent outer column position allows col fits right
  rw [tokens]
  exact .scalar untagged (by unfold Fits at fits; omega) right _

theorem written_sequence_nil : Written room (.sequence none []) := by
  refine .of_line (X := fun _ _ => ['[', ']', '\n']) (fun indent column position => ?_) ?_
  · simp [after, anchorLead]
  · intro indent outer column position allows col fits right
    rw [tokens]
    exact .sequence right

theorem written_mapping_nil : Written room (.mapping none []) := by
  refine .of_line (X := fun _ _ => ['\x7b', '\x7d', '\n']) (fun indent column position => ?_) ?_
  · simp [after, anchorLead]
  · intro indent outer column position allows col fits right
    rw [tokens]
    exact .mapping right

theorem opens_inner (indent : Nat) (outer : List Nat) :
    Opens (indent + 2) (indent :: outer) ((indent + 2) :: indent :: outer) true := by
  refine .new fun d there => ?_
  cases there
  omega

theorem written_sequence {x : Tree} {xs : List Tree} (some_ : 0 < room)
    (items : ItemsWritten (room - 1) (x :: xs)) : Written room (.sequence none (x :: xs)) := by
  refine ⟨fun indent outer column position behind fits => ?_, fun indent outer column fits => ?_⟩
  · refine ⟨listItems (indent + 2) true (x :: xs), ?_, ?_⟩
    · simp [after, blockLead, behind, step]
    · have passes := items (indent + 2) (indent :: outer) (indent :: outer) true (by simp)
        (fits.inner some_) (opens_inner indent outer)
      have closed := passes.close (by omega)
      simpa [tokens_sequence_own _ _ _ behind, startOf] using closed
  · refine .inr ⟨indent, listItems indent true (x :: xs), ?_, Nat.le_refl _, ?_⟩
    · simp [after, blockLead]
    · have passes := items indent (indent :: outer) outer false (by simp) fits.less (.same outer)
      simpa [tokens_sequence_below, startOf] using passes

theorem written_mapping {e : Tree × Tree} {es : List (Tree × Tree)} (some_ : 0 < room)
    (entries : EntriesWritten (room - 1) (e :: es)) : Written room (.mapping none (e :: es)) := by
  have passes (indent : Nat) (outer : List Nat) (fits : Fits indent room) :
      Passes (indent :: outer) true (indent + 2) (mapEntries (indent + 2) true (e :: es)) indent
        outer (.blockMappingStart :: entryTokens (e :: es) ++ [.blockEnd]) := by
    have opened := entries (indent + 2) (indent :: outer) (indent :: outer) true (by simp)
      (fits.inner some_) (opens_inner indent outer)
    simpa [startOf] using opened.close (by omega)
  refine ⟨fun indent outer column position behind fits => ?_, fun indent outer column fits => ?_⟩
  · refine ⟨mapEntries (indent + 2) true (e :: es), ?_, ?_⟩
    · simp [after, blockLead, behind, step]
    · simpa [tokens_mapping] using passes indent outer fits
  · refine .inr ⟨indent + 2, mapEntries (indent + 2) true (e :: es), ?_, by omega, ?_⟩
    · simp [after, blockLead, step]
    · simpa [tokens_mapping] using passes indent outer fits

/-! ## Items and entries -/

theorem listItems_false (indent : Nat) (x : Tree) (xs : List Tree) :
    listItems indent false (x :: xs) = pad indent ++ listItems indent true (x :: xs) := by
  simp [listItems]

theorem mapEntries_false (indent : Nat) (e : Tree × Tree) (es : List (Tree × Tree)) :
    mapEntries indent false (e :: es) = pad indent ++ mapEntries indent true (e :: es) := by
  simp [mapEntries]

theorem itemsWritten_cons {x : Tree} {xs : List Tree} (item : Written room x)
    (items : ItemsWritten room xs) : ItemsWritten room (x :: xs) := by
  intro indent blocks outer isNew _ fits opens
  obtain ⟨X, text, passes⟩ := item.behindSign indent outer (indent + 1) .item (by simp) fits
  have first := passes.hyphen opens
  cases xs with
  | nil => simpa [listItems, itemTokens, text] using first
  | cons x' xs =>
      have next := items indent (indent :: outer) outer false (by simp) fits (.same outer)
      have both := first.cons next
      rw [listItems, listItems_false, text, itemTokens]
      simpa [startOf] using both

/-- A key is written on its line unless it is empty or has several lines. -/
theorem simpleKey_scalar {s : Scalar} (name : s.IsName) (indent : Nat) :
    simpleKey? indent (.scalar none s) =
      if isSimple s then some (s.write true (indent + 2) indent) else none := by
  have short := name.short
  have size : s.tag.short.length + s.text.length < longKey := by
    rw [name.isText]
    show 5 + _ < 128
    unfold longestName at short
    omega
  simp [simpleKey?, anchorLead, isSimple, size, step]

theorem margin_le_of_opens (opens : Opens indent blocks (indent :: outer) isNew) :
    margin blocks ≤ indent + 1 := by
  cases opens with
  | new inner =>
      cases blocks with
      | nil => exact Nat.zero_le _
      | cons d blocks => exact Nat.succ_le_succ (Nat.le_of_lt (inner d rfl))
  | same outer => exact Nat.le_refl _

/-- An entry with the key before its colon. -/
theorem simple_entry_passes {s : Scalar} {v : Tree} (name : s.IsName) (simple : isSimple s = true)
    (value : Written room v) (fits : Fits indent room)
    (opens : Opens indent blocks (indent :: outer) isNew) :
    Passes blocks true indent (s.write true (indent + 2) indent ++ ':' ::
        after indent (indent + (s.write true (indent + 2) indent).length + 1) .below v) indent outer
      (startOf .blockMappingStart isNew ++
        .key :: .scalar s.text (s.style true = .plain) :: .value :: tokens .below v) := by
  obtain ⟨nonempty, oneLine⟩ : s.text ≠ [] ∧ Scalar.isMultiline s.text = false := by
    simpa [isSimple] using simple
  have key made r (gap : atGap r = true) : ReadsKey blocks made indent
      (s.write true (indent + 2) indent) r s.text (decide (s.style true = .plain)) :=
    readsKey name.untagged nonempty oneLine name.short gap (margin_le_of_opens opens)
      (Nat.succ_pos _) (by unfold Fits at fits; omega)
  obtain ⟨X, text, passes⟩ | ⟨inner, X, text, right, passes⟩ :=
    value.behindKey indent outer (indent + (s.write true (indent + 2) indent).length + 1) fits
  · rw [text]
    exact .key_here key opens (passes _ (by omega))
  · rw [text]
    simpa using Passes.key_line key opens right passes

/-- An entry with the key behind a question mark. -/
theorem split_entry_passes {s : Scalar} {v : Tree} (untagged : s.IsUntagged)
    (value : Written room v) (fits : Fits indent room)
    (opens : Opens indent blocks (indent :: outer) isNew) :
    Passes blocks true indent ('?' :: after indent (indent + 1) .part (.scalar none s) ++
        pad indent ++ ':' :: after indent (indent + 1) .part v) indent outer
      (startOf .blockMappingStart isNew ++
        .key :: .scalar s.text (s.style false = .plain) :: .value :: tokens .part v) := by
  obtain ⟨X, key, keyPasses⟩ :=
    (written_scalar untagged).behindSign indent outer (indent + 1) .part (by simp) fits
  obtain ⟨Y, text, passes⟩ := value.behindSign indent outer (indent + 1) .part (by simp) fits
  rw [key, text]
  simpa [tokens] using (keyPasses.question opens).cons passes.colon

/-- The key of an entry with its value. -/
theorem entry_passes {s : Scalar} {v : Tree} (name : s.IsName) (value : Written room v)
    (fits : Fits indent room) (opens : Opens indent blocks (indent :: outer) isNew) :
    ∃ E, (∀ es, mapEntries indent true ((.scalar none s, v) :: es) =
        E ++ mapEntries indent false es) ∧
      Passes blocks true indent E indent outer
        (startOf .blockMappingStart isNew ++ .key :: keyToken (.scalar none s) ++
          .value :: tokens (valuePosition (.scalar none s)) v) := by
  cases simple : isSimple s with
  | true =>
      have passes := simple_entry_passes name simple value fits opens
      simp only [keyToken, valuePosition, simple, if_true, List.append_assoc, List.cons_append,
        List.nil_append]
      exact ⟨_, fun es => by simp [mapEntries, simpleKey_scalar name, simple], passes⟩
  | false =>
      have passes := split_entry_passes name.untagged value fits opens
      simp only [keyToken, valuePosition, simple, Bool.false_eq_true, if_false, List.append_assoc,
        List.cons_append, List.nil_append]
      exact ⟨_, fun es => by simp [mapEntries, simpleKey_scalar name, simple], passes⟩

theorem entriesWritten_cons {s : Scalar} {v : Tree} {es : List (Tree × Tree)} (name : s.IsName)
    (value : Written room v) (entries : EntriesWritten room es) :
    EntriesWritten room ((.scalar none s, v) :: es) := by
  intro indent blocks outer isNew _ fits opens
  obtain ⟨E, text, first⟩ := entry_passes name value fits opens
  rw [text]
  cases es with
  | nil => simpa [mapEntries, entryTokens] using first
  | cons e es =>
      have next := entries indent (indent :: outer) outer false (by simp) fits (.same outer)
      have both := first.cons next
      rw [mapEntries_false, entryTokens]
      simpa [startOf] using both

mutual

/-- **A regular tree passes behind every indicator.** -/
theorem written : ∀ {room : Nat} {t : Tree}, Regular room t → Written room t
  | _, .scalar anchor s, regular => by
      rw [Regular] at regular
      obtain ⟨rfl, untagged⟩ := regular
      exact written_scalar untagged
  | _, .sequence anchor [], regular => by
      rw [Regular] at regular
      obtain ⟨rfl, -⟩ := regular
      exact written_sequence_nil
  | _, .mapping anchor [], regular => by
      rw [Regular] at regular
      obtain ⟨rfl, -⟩ := regular
      exact written_mapping_nil
  | _, .sequence anchor (x :: xs), regular => by
      rw [Regular] at regular
      obtain ⟨rfl, some_, items⟩ := regular
      exact written_sequence some_ (itemsWritten items)
  | _, .mapping anchor (e :: es), regular => by
      rw [Regular] at regular
      obtain ⟨rfl, some_, entries⟩ := regular
      exact written_mapping some_ (entriesWritten entries)
  | _, .alias _, regular => by
      rw [Regular] at regular
      exact regular.elim

theorem itemsWritten : ∀ {room : Nat} {xs : List Tree}, RegularItems room xs → ItemsWritten room xs
  | _, [], _ => fun _ _ _ _ some_ => absurd rfl some_
  | _, x :: xs, regular => by
      rw [RegularItems] at regular
      exact itemsWritten_cons (written regular.1) (itemsWritten regular.2)

theorem entriesWritten : ∀ {room : Nat} {es : List (Tree × Tree)}, RegularEntries room es →
    EntriesWritten room es
  | _, [], _ => fun _ _ _ _ some_ => absurd rfl some_
  | _, (k, v) :: es, regular => by
      rw [RegularEntries] at regular
      obtain ⟨⟨s, rfl, name⟩, value, rest⟩ := regular
      exact entriesWritten_cons name (written value) (entriesWritten rest)

end

/-! ## Documents -/

/-- What may stand behind the tree of a document. -/
def IsMark (mark : List Char) (marks : List Token) : Prop :=
  mark = [] ∧ marks = [] ∨ mark = endMark ∧ marks = [.documentEnd]

theorem IsMark.solid {mark : List Char} {marks : List Token} (isMark : IsMark mark marks) :
    Solid mark := by
  rcases isMark with ⟨rfl, -⟩ | ⟨rfl, -⟩
  · exact fun c there => by cases there
  · exact fun c there => by cases there; decide

/-- The tokens of a text that leads to the mark at its end. -/
theorem lexed_of_leads {heading mark : List Char} {marks : List Token}
    (interlude : Interlude heading) (isMark : IsMark mark marks)
    (allowed : (heading ++ (X ++ mark)).all isAllowed = true) (solid : Solid (X ++ mark))
    (leads : Leads ⟨[], [], true, 0, X ++ mark⟩ ⟨blocks, ts, true, 0, mark⟩) :
    Lexed.ofText (heading ++ (X ++ mark)) =
      ⟨ts ++ (blocks.map fun _ => .blockEnd) ++ marks, none⟩ := by
  rcases isMark with ⟨rfl, rfl⟩ | ⟨rfl, rfl⟩
  · rw [Lexed.ofText_of_leads interlude allowed solid leads, List.append_nil]
  · have ended := leads.trans endMark_leads
    rw [Lexed.ofText_of_leads interlude allowed solid ended, List.map_nil, List.append_nil]

/-- The tokens of a block that stands at the margin. -/
theorem lexed_of_passes {heading mark : List Char} {marks : List Token}
    (interlude : Interlude heading) (isMark : IsMark mark marks)
    (passes : Passes [] true 0 X 0 [] ts) (allowed : (heading ++ (X ++ mark)).all isAllowed = true) :
    Lexed.ofText (heading ++ (X ++ mark)) = ⟨ts ++ [.blockEnd] ++ marks, none⟩ := by
  have leads := passes.leads [] 0 mark (Nat.le_refl _) isMark.solid
  rw [kept_of_le (Nat.le_refl _), ends_of_le (Nat.le_refl _), List.append_nil] at leads
  exact lexed_of_leads interlude isMark allowed (passes.solid mark) leads

theorem lexed_scalar {s : Scalar} (untagged : s.IsUntagged) {mark : List Char} {marks : List Token}
    (isMark : IsMark mark marks) (plain : s.style false = .plain → mark = endMark)
    (allowed : (scalarLine step 0 none s ++ mark).all isAllowed = true) :
    Lexed.ofText (scalarLine step 0 none s ++ mark) =
      ⟨.scalar s.text (s.style false = .plain) :: marks, none⟩ := by
  have left : margin [] ≤ 0 := Nat.le_refl _
  have leads := scalar_leads [] true 0 untagged left Nat.zero_lt_one (by decide)
    (fun isPlain => .inr ⟨rfl, fun l i => by
      rw [plain isPlain]
      rfl⟩) isMark.solid
  exact lexed_of_leads .nil isMark allowed (solid_scalarLine untagged _ _ _) leads

/-- What closes a tree. -/
theorem isMark_closing (t : Tree) : ∃ marks, IsMark (document.closing t) marks := by
  unfold document.closing
  split
  · exact ⟨_, .inr ⟨rfl, rfl⟩⟩
  · exact ⟨_, .inl ⟨rfl, rfl⟩⟩

theorem isMark_nil : IsMark [] [] := .inl ⟨rfl, rfl⟩

theorem opens_root : Opens 0 [] [0] true := .new fun _ there => by cases there

/-- **The tokens of a document are the tokens of its tree**, with a mark behind them where the tree
ends open. -/
theorem lexed_document {t : Tree} (regular : Regular room t) (fits : Fits 0 room)
    (allowed : (document t).all isAllowed = true) :
    ∃ mark marks, IsMark mark marks ∧
      Lexed.ofText (document t) = ⟨tokens .item t ++ marks, none⟩ := by
  cases t with
  | scalar anchor s =>
      rw [Regular] at regular
      obtain ⟨rfl, untagged⟩ := regular
      obtain ⟨mark, marks, isMark, plain, text⟩ : ∃ mark marks, IsMark mark marks ∧
          (s.style false = .plain → mark = endMark) ∧
          document (.scalar none s) = scalarLine step 0 none s ++ mark := by
        by_cases isPlain : s.style false = .plain
        · refine ⟨endMark, _, .inr ⟨rfl, rfl⟩, fun _ => rfl, ?_⟩
          simp [document, document.closing, endsOpen, isPlain]
        · obtain ⟨marks, isMark⟩ := isMark_closing (.scalar none s)
          refine ⟨_, marks, isMark, fun same => absurd same isPlain, ?_⟩
          simp [document, isPlain]
      rw [text] at allowed ⊢
      rw [tokens]
      exact ⟨mark, marks, isMark, lexed_scalar untagged isMark plain allowed⟩
  | sequence anchor xs =>
      rw [Regular] at regular
      obtain ⟨rfl, some_, items⟩ := regular
      cases xs with
      | nil =>
          have leads : Leads ⟨[], [], true, 0, ['[', ']', '\n'] ++ []⟩
              ⟨[], [.flowSequenceStart, .flowSequenceEnd], true, 0, []⟩ :=
            empty_sequence_leads (k := 0) (fun d there => by cases there) isMark_nil.solid
          exact ⟨[], [], isMark_nil, lexed_of_leads .nil isMark_nil allowed
            (fun c there => by cases there; decide) leads⟩
      | cons x xs =>
          have passes := itemsWritten items 0 [] [] true (by simp) fits.less opens_root
          obtain ⟨marks, isMark⟩ := isMark_closing (.sequence none (x :: xs))
          have lexed := lexed_of_passes .nil isMark passes allowed
          exact ⟨_, marks, isMark, lexed⟩
  | mapping anchor es =>
      rw [Regular] at regular
      obtain ⟨rfl, some_, entries⟩ := regular
      cases es with
      | nil =>
          have leads : Leads ⟨[], [], true, 0, ['\x7b', '\x7d', '\n'] ++ []⟩
              ⟨[], [.flowMappingStart, .flowMappingEnd], true, 0, []⟩ :=
            empty_mapping_leads (k := 0) (fun d there => by cases there) isMark_nil.solid
          exact ⟨[], [], isMark_nil, lexed_of_leads .nil isMark_nil allowed
            (fun c there => by cases there; decide) leads⟩
      | cons e es =>
          have passes := entriesWritten entries 0 [] [] true (by simp) fits.less opens_root
          obtain ⟨marks, isMark⟩ := isMark_closing (.mapping none (e :: es))
          have lexed := lexed_of_passes .nil isMark passes allowed
          exact ⟨_, marks, isMark, lexed⟩
  | «alias» name =>
      rw [Regular] at regular
      exact regular.elim

end Tree

end Conveyor.Yaml
