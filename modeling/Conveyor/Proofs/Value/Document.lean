import Conveyor.Proofs.Text.Hex
import Conveyor.Proofs.Value.Verdict
import Conveyor.Terminal.Escape
import Conveyor.Value.Json

/-!
# JSON texts are JSON documents

A reader of JSON documents is defined here, without the numbers. It takes blanks between the parts
of a document, and inside a string it takes every escape that there is, one for a character or two
for the halves of a pair. What is left behind a value is given back, so that a text is one document
if nothing but blanks are left (`read?`).

What is written for a value without numbers is read back as this value, and it does not hold the
character that begins a control sequence (`IsNumberless.exists_document`).
-/

set_option autoImplicit false

namespace Conveyor

namespace Json

/-! ## Reading documents -/

/-- The blanks between the parts of a document. -/
def isBlank (c : Char) : Bool := c = ' ' || c = '\t' || c = '\n' || c = '\r'

/-- What follows the blanks in front. -/
def afterBlanks (s : List Char) : List Char := s.dropWhile isBlank

/-- What a letter after a backslash stands for. -/
def shortEscapes : List (Char × Char) :=
  [('"', '"'), ('\\', '\\'), ('/', '/'), ('b', '\x08'), ('f', '\x0c'), ('n', '\n'), ('r', '\r'),
    ('t', '\t')]

/-- The unit of UTF-16 that four digits denote. -/
def unit? : List Char → Option (Nat × List Char)
  | a :: b :: c :: d :: rest => do return (← Text.hexNumber? [a, b, c, d], rest)
  | _ => none

/-- The unit that has an escape of its own. -/
def escapedUnit? : List Char → Option (Nat × List Char)
  | '\\' :: 'u' :: rest => unit? rest
  | _ => none

/-- The character that a unit stands for; the first half of a pair needs the second one. -/
def unitChar? (s : List Char) : Option (Char × List Char) := do
  let (n, rest) ← unit? s
  if 0xd800 ≤ n ∧ n < 0xdc00 then
    let (m, rest) ← escapedUnit? rest
    if 0xdc00 ≤ m ∧ m < 0xe000 then
      return (Char.ofNat (0x10000 + n % 0x400 * 0x400 + m % 0x400), rest)
    else none
  else if 0xdc00 ≤ n ∧ n < 0xe000 then none
  else return (Char.ofNat n, rest)

/-- The character that an escape stands for, after its backslash. -/
def escaped? : List Char → Option (Char × List Char)
  | 'u' :: rest => unitChar? rest
  | c :: rest => do return (← shortEscapes.lookup c, rest)
  | [] => none

/-- One character of a string. -/
def char? : List Char → Option (Char × List Char)
  | [] => none
  | c :: rest =>
    if c = '\\' then escaped? rest
    else if c = '"' ∨ c.toNat < 0x20 then none
    else some (c, rest)

/-- The characters of a string up to the closing quote. -/
def chars? : Nat → List Char → Option (List Char × List Char)
  | 0, _ => none
  | fuel + 1, s =>
    if s.head? = some '"' then some ([], s.tail)
    else do
      let (c, rest) ← char? s
      let (cs, rest) ← chars? fuel rest
      return (c :: cs, rest)

section Groups

variable {α : Type} (one : List Char → Option (α × List Char)) (close : Char)

/-- Parts with commas between them, up to a closing character. -/
def row? : Nat → List Char → Option (List α × List Char)
  | 0, _ => none
  | fuel + 1, s => do
    let (x, rest) ← one s
    match afterBlanks rest with
    | [] => none
    | c :: rest =>
      if c = close then some ([x], rest)
      else if c = ',' then do
        let (xs, rest) ← row? fuel rest
        return (x :: xs, rest)
      else none

/-- Parts up to a closing character, or none at all. -/
def group? (fuel : Nat) (s : List Char) : Option (List α × List Char) :=
  match afterBlanks s with
  | [] => none
  | c :: rest => if c = close then some ([], rest) else row? one close fuel s

end Groups

/-- A member of an object, whose value is read by some reader. -/
def member? (value : List Char → Option (Value × List Char)) (fuel : Nat) (s : List Char) :
    Option ((Value × Value) × List Char) :=
  match afterBlanks s with
  | '"' :: rest => do
    let (key, rest) ← chars? fuel rest
    match afterBlanks rest with
    | ':' :: rest =>
      let (v, rest) ← value rest
      return ((.text (String.ofList key), v), rest)
    | _ => none
  | _ => none

/-- A value that is no number. -/
def value? : Nat → List Char → Option (Value × List Char)
  | 0, _ => none
  | fuel + 1, s =>
    match afterBlanks s with
    | 'n' :: 'u' :: 'l' :: 'l' :: rest => some (.null, rest)
    | 't' :: 'r' :: 'u' :: 'e' :: rest => some (.bool true, rest)
    | 'f' :: 'a' :: 'l' :: 's' :: 'e' :: rest => some (.bool false, rest)
    | '"' :: rest => do
      let (cs, rest) ← chars? fuel rest
      return (.text (String.ofList cs), rest)
    | '[' :: rest => do
      let (xs, rest) ← group? (value? fuel) ']' fuel rest
      return (.list xs, rest)
    | '\x7b' :: rest => do
      let (es, rest) ← group? (member? (value? fuel) fuel) '\x7d' fuel rest
      return (.map es, rest)
    | _ => none

/-- The value of a text that is one document. -/
def read? (s : String) : Option Value := do
  let (v, rest) ← value? s.length s.toList
  if (afterBlanks rest).isEmpty then return v else none

variable {rest : List Char}

theorem value?_quote {fuel : Nat} {s : List Char} (opens : afterBlanks s = '"' :: rest) :
    value? (fuel + 1) s = do
      let (cs, rest) ← chars? fuel rest
      return (.text (String.ofList cs), rest) := by
  rw [value?, opens]
  rfl

theorem value?_bracket {fuel : Nat} {s : List Char} (opens : afterBlanks s = '[' :: rest) :
    value? (fuel + 1) s = do
      let (xs, rest) ← group? (value? fuel) ']' fuel rest
      return (.list xs, rest) := by
  rw [value?, opens]
  rfl

theorem value?_brace {fuel : Nat} {s : List Char} (opens : afterBlanks s = '\x7b' :: rest) :
    value? (fuel + 1) s = do
      let (es, rest) ← group? (member? (value? fuel) fuel) '\x7d' fuel rest
      return (.map es, rest) := by
  rw [value?, opens]
  rfl

/-! ## Strings are read back -/

theorem unit?_hex {n : Nat} (small : n < 0x10000) :
    unit? (Text.hex 4 n ++ rest) = some (n, rest) := by
  have length : (Text.hex 4 n).length = 4 := Text.length_hex (by decide) small
  have number := Text.hexNumber?_hex 4 n
  match Text.hex 4 n, length, number with
  | [a, b, c, d], _, number =>
      simp only [List.cons_append, List.nil_append, unit?, number]
      rfl

/-- A character of its own unit is read from it. -/
theorem unitChar?_unit {c : Char} (small : c.toNat < 0x10000) :
    unitChar? (Text.hex 4 c.toNat ++ rest) = some (c, rest) := by
  have valid : c.toNat < 0xd800 ∨ 0xdfff < c.toNat ∧ c.toNat < 0x110000 := c.valid
  rw [unitChar?, unit?_hex small]
  dsimp only [Option.bind_eq_bind, Option.bind_some]
  rw [if_neg (by omega), if_neg (by omega), Char.ofNat_toNat]
  rfl

/-- A character beyond the units is read from the two halves of its pair. -/
theorem unitChar?_pair {c : Char} {k : Nat} (beyond : c.toNat = 0x10000 + k) :
    unitChar? (Text.hex 4 (0xd800 + k / 0x400) ++
      '\\' :: 'u' :: (Text.hex 4 (0xdc00 + k % 0x400) ++ rest)) = some (c, rest) := by
  have valid : c.toNat < 0xd800 ∨ 0xdfff < c.toNat ∧ c.toNat < 0x110000 := c.valid
  have high : 0xd800 + k / 0x400 < 0xdc00 := by omega
  have low : 0xdc00 + k % 0x400 < 0xe000 := by omega
  have whole : 0x10000 + (0xd800 + k / 0x400) % 0x400 * 0x400 + (0xdc00 + k % 0x400) % 0x400 =
      c.toNat := by omega
  rw [unitChar?, unit?_hex (by omega)]
  dsimp only [Option.bind_eq_bind, Option.bind_some]
  rw [if_pos ⟨by omega, high⟩, escapedUnit?, unit?_hex (by omega), Option.bind_some]
  dsimp only
  rw [if_pos ⟨by omega, low⟩, whole, Char.ofNat_toNat]
  rfl

/-- A unit in an escape is read as its character. -/
theorem char?_unit (s : List Char) : char? ('\\' :: 'u' :: s) = unitChar? s := rfl

/-- What is written for a character is read as this character. -/
theorem char?_jsonChar (c : Char) : char? (Value.jsonChar c ++ rest) = some (c, rest) := by
  unfold Value.jsonChar
  split_ifs with quoted newline return_ tab feed back plain unit
  · rcases quoted with rfl | rfl <;> simp [char?, escaped?, shortEscapes, List.lookup_cons]
  · simp [char?, escaped?, shortEscapes, List.lookup_cons, newline]
  · simp [char?, escaped?, shortEscapes, List.lookup_cons, return_]
  · simp [char?, escaped?, shortEscapes, List.lookup_cons, tab]
  · simp [char?, escaped?, shortEscapes, List.lookup_cons, feed]
  · simp [char?, escaped?, shortEscapes, List.lookup_cons, back]
  · obtain ⟨noQuote, noBackslash⟩ := not_or.mp quoted
    rw [List.cons_append, List.nil_append, char?, if_neg noBackslash,
      if_neg (not_or.mpr ⟨noQuote, by omega⟩)]
  · rw [Value.jsonUnit, List.cons_append, List.cons_append, char?_unit, unitChar?_unit unit]
  · obtain ⟨k, beyond⟩ := Nat.exists_eq_add_of_le (Nat.le_of_not_lt unit)
    have rest_ : c.toNat - 0x10000 = k := by omega
    simp only [rest_, Value.jsonUnit, List.append_assoc, List.cons_append]
    rw [char?_unit, unitChar?_pair beyond]

/-- The text for a character begins with something else than a quote, and it does not hold the
character that begins a control sequence. -/
theorem jsonChar_spec (c : Char) :
    (∃ first more, Value.jsonChar c = first :: more ∧ first ≠ '"') ∧
      Terminal.escape ∉ Value.jsonChar c := by
  have digits (n : Nat) : Terminal.escape ∉ Text.hex 4 n := fun there =>
    absurd (Text.mem_hex _ there) (by decide)
  have unit_ (n : Nat) : Terminal.escape ∉ Value.jsonUnit n := by
    simpa [Value.jsonUnit, Terminal.escape] using digits n
  unfold Value.jsonChar
  split_ifs with quoted newline return_ tab feed back plain unit
  · exact ⟨⟨_, _, rfl, by decide⟩, by rcases quoted with rfl | rfl <;> decide⟩
  · exact ⟨⟨_, _, rfl, by decide⟩, by decide⟩
  · exact ⟨⟨_, _, rfl, by decide⟩, by decide⟩
  · exact ⟨⟨_, _, rfl, by decide⟩, by decide⟩
  · exact ⟨⟨_, _, rfl, by decide⟩, by decide⟩
  · exact ⟨⟨_, _, rfl, by decide⟩, by decide⟩
  · refine ⟨⟨_, _, rfl, fun same => quoted (.inl same)⟩, ?_⟩
    intro there
    rw [← List.mem_singleton.mp there] at plain
    exact absurd plain.1 (by decide)
  · exact ⟨⟨_, _, rfl, by decide⟩, unit_ _⟩
  · refine ⟨⟨_, _, rfl, by decide⟩, ?_⟩
    simp [unit_]

/-- What is written for the characters of a string is read up to the closing quote. -/
theorem chars?_jsonChar (cs : List Char) :
    ∀ fuel, (cs.flatMap Value.jsonChar).length < fuel →
      chars? fuel (cs.flatMap Value.jsonChar ++ '"' :: rest) = some (cs, rest) := by
  induction cs with
  | nil =>
      intro fuel enough
      obtain ⟨more, rfl⟩ := Nat.exists_eq_add_of_lt enough
      rfl
  | cons c cs ih =>
      intro fuel enough
      obtain ⟨⟨first, more, written, noQuote⟩, -⟩ := jsonChar_spec c
      obtain ⟨less, rfl⟩ := Nat.exists_eq_succ_of_ne_zero (Nat.ne_zero_of_lt enough)
      rw [List.flatMap_cons, List.length_append, written, List.length_cons] at enough
      have begins : (Value.jsonChar c ++ (cs.flatMap Value.jsonChar ++ '"' :: rest)).head? ≠
          some '"' := by
        rw [written]
        simpa using noQuote
      rw [List.flatMap_cons, List.append_assoc, chars?, if_neg begins, char?_jsonChar]
      dsimp only [Option.bind_eq_bind, Option.bind_some]
      rw [ih _ (by omega)]
      rfl

/-! ## Values are read back -/

/-- A row of blanks. -/
def AreBlanks (s : List Char) : Prop := ∀ c ∈ s, isBlank c = true

theorem afterBlanks_append {blanks s : List Char} (h : AreBlanks blanks) :
    afterBlanks (blanks ++ s) = afterBlanks s :=
  List.dropWhile_append_of_pos h

theorem afterBlanks_cons {c : Char} {s : List Char} (h : isBlank c = false) :
    afterBlanks (c :: s) = c :: s :=
  List.dropWhile_cons_of_neg (by simp [h])

theorem areBlanks_line (depth : Nat) : AreBlanks (Value.jsonLine depth).toList := by
  intro c there
  rw [Value.jsonLine, String.toList_ofList, List.mem_cons] at there
  rcases there with rfl | there
  · decide
  · rw [List.eq_of_mem_replicate there]
    decide

section Groups

variable {α : Type} {one : List Char → Option (α × List Char)} {close : Char} {bound : Nat}

/-- A text from which a reader takes a part of a group, if the text is not too long. -/
structure IsPart (one : List Char → Option (α × List Char)) (close : Char) (bound : Nat) (x : α)
    (s : List Char) : Prop where
  begins : ∃ c more, s = c :: more ∧ isBlank c = false ∧ c ≠ close
  reads : s.length ≤ bound → ∀ blanks rest, AreBlanks blanks →
    one (blanks ++ (s ++ rest)) = some (x, rest)

variable {lead tail : List Char}

/-- Parts on lines of their own are read up to the closing character. -/
theorem row?_parts (rest : List Char) (leads : AreBlanks lead) (tails : AreBlanks tail)
    (visible : isBlank close = false) (other : ',' ≠ close) {xs : List α}
    {parts : List (List Char)}
    (each : List.Forall₂ (IsPart one close bound) xs parts) (some_ : parts ≠ []) :
    ∀ fuel, ([','].intercalate (parts.map (lead ++ ·))).length < fuel →
      ([','].intercalate (parts.map (lead ++ ·))).length ≤ bound →
      row? one close fuel ([','].intercalate (parts.map (lead ++ ·)) ++ (tail ++ close :: rest)) =
        some (xs, rest) := by
  induction each with
  | nil => exact absurd rfl some_
  | @cons x s xs parts part others ih =>
      intro fuel enough fits
      obtain ⟨less, rfl⟩ := Nat.exists_eq_succ_of_ne_zero (Nat.ne_zero_of_lt enough)
      cases others with
      | nil =>
          rw [List.map_singleton, List.intercalate_singleton, List.length_append] at fits
          rw [List.map_singleton, List.intercalate_singleton, List.append_assoc, row?,
            part.reads (by omega) lead _ leads]
          dsimp only [Option.bind_eq_bind, Option.bind_some]
          rw [afterBlanks_append tails, afterBlanks_cons visible]
          exact if_pos rfl
      | @cons y s' ys parts part' others =>
          have more := ih (by simp) less
          rw [List.map_cons, List.map_cons, List.intercalate_cons_cons] at enough fits ⊢
          rw [List.map_cons] at more
          simp only [List.length_append, List.length_cons, List.length_nil] at enough fits
          rw [List.append_assoc, List.append_assoc, List.append_assoc, row?,
            part.reads (by omega) lead _ leads]
          dsimp only [Option.bind_eq_bind, Option.bind_some]
          rw [List.cons_append, List.nil_append, afterBlanks_cons (by decide)]
          dsimp only
          rw [if_neg other, if_pos rfl, more (by omega) (by omega)]
          rfl

/-- Parts on lines of their own, up to a closing character; without parts it follows at once. -/
def block (lead tail : List Char) (close : Char) (parts : List (List Char)) : List Char :=
  if parts.isEmpty then [close] else [','].intercalate (parts.map (lead ++ ·)) ++ (tail ++ [close])

theorem group?_block (leads : AreBlanks lead) (tails : AreBlanks tail)
    (visible : isBlank close = false) (other : ',' ≠ close) {xs : List α}
    {parts : List (List Char)} (each : List.Forall₂ (IsPart one close bound) xs parts)
    (fits : (block lead tail close parts).length ≤ bound) :
    group? one close bound (block lead tail close parts ++ rest) = some (xs, rest) := by
  cases each with
  | nil =>
      rw [group?, block, if_pos List.isEmpty_nil, List.singleton_append, afterBlanks_cons visible]
      exact if_pos rfl
  | @cons x s xs parts part others =>
      have read := row?_parts rest leads tails visible other (.cons part others) (by simp)
      obtain ⟨c, more, rfl, ink, differs⟩ := part.begins
      rw [block, if_neg (by simp)] at fits ⊢
      rw [List.length_append, List.length_append, List.length_singleton] at fits
      rw [List.append_assoc, List.append_assoc, List.singleton_append]
      have begins : ∃ after, [','].intercalate (((c :: more) :: parts).map (lead ++ ·)) =
          lead ++ c :: after := by
        cases parts with
        | nil => exact ⟨more, by simp⟩
        | cons s' parts =>
            rw [List.map_cons, List.map_cons, List.intercalate_cons_cons, List.append_assoc,
              List.append_assoc]
            exact ⟨_, rfl⟩
      obtain ⟨after, begins⟩ := begins
      have read := read bound (by omega) (by omega)
      rw [begins, List.append_assoc] at read ⊢
      rw [group?, afterBlanks_append leads, List.cons_append, afterBlanks_cons ink]
      dsimp only
      rw [if_neg differs, ← List.cons_append]
      exact read

theorem not_mem_intercalate {a : Char} {sep : List Char} (absent : a ∉ sep)
    {parts : List (List Char)} (each : ∀ s ∈ parts, a ∉ s) : a ∉ sep.intercalate parts := by
  induction parts with
  | nil => simp
  | cons s parts ih =>
      obtain ⟨here, later⟩ := List.forall_mem_cons.mp each
      cases parts with
      | nil => simpa using here
      | cons s' parts =>
          rw [List.intercalate_cons_cons]
          simp [here, absent, ih later]

/-- Blanks do not hold the character that begins a control sequence. -/
theorem AreBlanks.clean {blanks : List Char} (h : AreBlanks blanks) : Terminal.escape ∉ blanks :=
  fun there => absurd (h _ there) (by decide)

theorem clean_block (leads : AreBlanks lead) (tails : AreBlanks tail)
    (other : Terminal.escape ≠ close) {parts : List (List Char)}
    (each : ∀ s ∈ parts, Terminal.escape ∉ s) :
    Terminal.escape ∉ block lead tail close parts := by
  unfold block
  split
  · simpa using other
  · have inside : Terminal.escape ∉ [','].intercalate (parts.map (lead ++ ·)) :=
      not_mem_intercalate (by decide) fun s there => by
        obtain ⟨s, known, rfl⟩ := List.mem_map.mp there
        simp [leads.clean, each s known]
    simp [inside, tails.clean, other]

end Groups

theorem toList_jsonBlock (depth : Nat) {opening closing : String} {first close : Char}
    (opens : opening.toList = [first]) (closes : closing.toList = [close]) (parts : List String) :
    (Value.jsonBlock depth opening closing parts).toList = first ::
      block (Value.jsonLine (depth + 1)).toList (Value.jsonLine depth).toList close
        (parts.map String.toList) := by
  rw [Value.jsonBlock, block, List.isEmpty_map]
  split
  · rw [String.toList_append, opens, closes, List.singleton_append]
  · have lines : ((parts.map (Value.jsonLine (depth + 1) ++ ·)).map String.toList) =
        (parts.map String.toList).map ((Value.jsonLine (depth + 1)).toList ++ ·) := by
      simp [Function.comp_def]
    simp only [String.toList_append, String.toList_intercalate, opens, closes, lines,
      List.append_assoc, List.cons_append]
    rfl

/-- A text that is read as a value, whatever blanks are before it and whatever follows it. -/
structure IsTextOf (v : Value) (s : List Char) : Prop where
  clean : Terminal.escape ∉ s
  begins : ∃ c more, s = c :: more ∧ isBlank c = false ∧ c ≠ ']'
  reads : ∀ fuel, s.length ≤ fuel → ∀ blanks rest, AreBlanks blanks →
    value? fuel (blanks ++ (s ++ rest)) = some (v, rest)

theorem isTextOf_null : IsTextOf .null "null".toList where
  clean := by decide
  begins := ⟨_, _, rfl, by decide, by decide⟩
  reads fuel enough blanks rest blank := by
    obtain ⟨less, rfl⟩ := Nat.exists_eq_succ_of_ne_zero (Nat.ne_zero_of_lt enough)
    rw [value?, afterBlanks_append blank]
    rfl

theorem isTextOf_bool (b : Bool) : IsTextOf (.bool b) (if b then "true" else "false").toList := by
  cases b
  all_goals
    refine ⟨by decide, ⟨_, _, rfl, by decide, by decide⟩, fun fuel enough blanks rest blank => ?_⟩
    obtain ⟨less, rfl⟩ := Nat.exists_eq_succ_of_ne_zero (Nat.ne_zero_of_lt enough)
    rw [value?, afterBlanks_append blank]
    rfl

theorem toList_jsonText (s : String) :
    (Value.jsonText s).toList = '"' :: (s.toList.flatMap Value.jsonChar ++ ['"']) := by
  rw [Value.jsonText, String.toList_ofList]
  rfl

theorem clean_jsonText (s : String) : Terminal.escape ∉ (Value.jsonText s).toList := by
  have inside : Terminal.escape ∉ s.toList.flatMap Value.jsonChar := fun there => by
    obtain ⟨c, -, here⟩ := List.mem_flatMap.mp there
    exact (jsonChar_spec c).2 here
  rw [toList_jsonText, List.mem_cons, List.mem_append, List.mem_singleton]
  exact not_or.mpr ⟨by decide, not_or.mpr ⟨inside, by decide⟩⟩

theorem isTextOf_text (s : String) : IsTextOf (.text s) (Value.jsonText s).toList where
  clean := clean_jsonText s
  begins := ⟨_, _, toList_jsonText s, by decide, by decide⟩
  reads fuel enough blanks rest blank := by
    rw [toList_jsonText] at enough ⊢
    obtain ⟨less, rfl⟩ := Nat.exists_eq_succ_of_ne_zero (Nat.ne_zero_of_lt enough)
    rw [List.length_cons, List.length_append, List.length_singleton] at enough
    have opens :
        afterBlanks (blanks ++ ('"' :: (s.toList.flatMap Value.jsonChar ++ ['"']) ++ rest)) =
        '"' :: (s.toList.flatMap Value.jsonChar ++ '"' :: rest) := by
      rw [afterBlanks_append blank, List.cons_append, List.append_assoc,
        afterBlanks_cons (by decide)]
      rfl
    rw [value?_quote opens, chars?_jsonChar s.toList less (by omega)]
    show some (Value.text (String.ofList s.toList), rest) = _
    rw [String.ofList_toList]

/-- Parts between brackets are the text of what is read from them after the opening bracket. -/
theorem isTextOf_block {depth : Nat} {opening closing : String} {first close : Char}
    (opens : opening.toList = [first]) (closes : closing.toList = [close])
    (ink : isBlank first = false) (other : first ≠ ']')
    (clean : Terminal.escape ≠ first ∧ Terminal.escape ≠ close) {v : Value} {parts : List String}
    (each : ∀ part ∈ parts, Terminal.escape ∉ part.toList)
    (reads : ∀ less rest s,
      (block (Value.jsonLine (depth + 1)).toList (Value.jsonLine depth).toList close
        (parts.map String.toList)).length ≤ less →
      afterBlanks s = first :: (block (Value.jsonLine (depth + 1)).toList
        (Value.jsonLine depth).toList close (parts.map String.toList) ++ rest) →
      value? (less + 1) s = some (v, rest)) :
    IsTextOf v (Value.jsonBlock depth opening closing parts).toList := by
  rw [toList_jsonBlock depth opens closes parts]
  refine ⟨?_, ⟨_, _, rfl, ink, other⟩, fun fuel enough blanks rest blank => ?_⟩
  · have inside := clean_block (areBlanks_line (depth + 1)) (areBlanks_line depth) clean.2
      (List.forall_mem_map.mpr each)
    exact fun there => (List.mem_cons.mp there).elim clean.1 inside
  · obtain ⟨less, rfl⟩ := Nat.exists_eq_succ_of_ne_zero (Nat.ne_zero_of_lt enough)
    refine reads less rest _ (Nat.le_of_succ_le_succ enough) ?_
    rw [afterBlanks_append blank, List.cons_append, afterBlanks_cons ink]

/-- The texts of the items are the parts of the text of a list. -/
theorem isTextOf_list (depth : Nat) {xs : List Value} {parts : List String}
    (each : List.Forall₂ (fun x part => IsTextOf x part.toList) xs parts) :
    IsTextOf (.list xs) (Value.jsonBlock depth "[" "]" parts).toList := by
  have clean : ∀ part ∈ parts, Terminal.escape ∉ part.toList := by
    intro part known
    obtain ⟨x, -, isText⟩ := exists_of_forall₂ each.flip known
    exact isText.clean
  refine isTextOf_block (by decide : "[".toList = ['[']) (by decide : "]".toList = [']'])
    (by decide) (by decide) (by decide) clean fun less rest s enough opens => ?_
  have items : List.Forall₂ (IsPart (value? less) ']' less) xs (parts.map String.toList) :=
    List.forall₂_map_right_iff.mpr (each.imp fun x part isText =>
      ⟨isText.begins, isText.reads less⟩)
  rw [value?_bracket opens, group?_block (areBlanks_line (depth + 1)) (areBlanks_line depth)
    (by decide) (by decide) items enough]
  rfl

/-- The text of a member is its key, a colon and the text of its value. -/
theorem isPart_member {key : String} {v : Value} {s : List Char} (isText : IsTextOf v s)
    (bound : Nat) :
    IsPart (member? (value? bound) bound) '\x7d' bound (.text key, v)
      ((Value.jsonText key).toList ++ (':' :: ' ' :: s)) := by
  rw [toList_jsonText]
  refine ⟨⟨_, _, rfl, by decide, by decide⟩, fun enough blanks rest blank => ?_⟩
  simp only [List.length_append, List.length_cons, List.length_nil] at enough
  have quote : afterBlanks (blanks ++ ('"' :: (key.toList.flatMap Value.jsonChar ++ ['"']) ++
      (':' :: ' ' :: s) ++ rest)) =
        '"' :: (key.toList.flatMap Value.jsonChar ++ '"' :: (':' :: ([' '] ++ (s ++ rest)))) := by
    rw [afterBlanks_append blank, List.cons_append, List.cons_append,
      afterBlanks_cons (by decide)]
    simp
  have blank_ : AreBlanks [' '] := List.forall_mem_singleton.mpr rfl
  have value_ := isText.reads bound (by omega) [' '] rest blank_
  rw [member?, quote]
  show (chars? bound (key.toList.flatMap Value.jsonChar ++ '"' :: _)).bind _ = _
  rw [chars?_jsonChar key.toList bound (by omega), Option.bind_some]
  show (value? bound ([' '] ++ (s ++ rest))).bind _ = _
  rw [value_, Option.bind_some]
  show some ((Value.text (String.ofList key.toList), v), rest) = _
  rw [String.ofList_toList]

/-- The texts of the members are the parts of the text of an object. -/
theorem isTextOf_map (depth : Nat) {es : List (Value × Value)} {parts : List String}
    (each : List.Forall₂ (fun e part => ∃ key s, e.1 = .text key ∧ IsTextOf e.2 s ∧
      part.toList = (Value.jsonText key).toList ++ (':' :: ' ' :: s)) es parts) :
    IsTextOf (.map es) (Value.jsonBlock depth "\x7b" "\x7d" parts).toList := by
  have clean : ∀ part ∈ parts, Terminal.escape ∉ part.toList := by
    intro part known
    obtain ⟨e, -, key, s, -, isText, same⟩ := exists_of_forall₂ each.flip known
    rw [same, List.mem_append, List.mem_cons, List.mem_cons]
    exact not_or.mpr ⟨clean_jsonText key,
      not_or.mpr ⟨by decide, not_or.mpr ⟨by decide, isText.clean⟩⟩⟩
  refine isTextOf_block (by decide : "\x7b".toList = ['\x7b'])
    (by decide : "\x7d".toList = ['\x7d']) (by decide) (by decide) (by decide) clean fun less rest s enough opens => ?_
  have members : List.Forall₂ (IsPart (member? (value? less) less) '\x7d' less) es
      (parts.map String.toList) := by
    refine List.forall₂_map_right_iff.mpr (each.imp fun e part written => ?_)
    obtain ⟨_, v⟩ := e
    obtain ⟨key, s, rfl, isText, same⟩ := written
    rw [same]
    exact isPart_member isText less
  rw [value?_brace opens, group?_block (areBlanks_line (depth + 1)) (areBlanks_line depth)
    (by decide) (by decide) members enough]
  rfl

/-! ## Values without numbers -/

/-- Values that are made of texts, truth values and nothing. -/
inductive IsNumberless : Value → Prop where
  | null : IsNumberless .null
  | bool (b : Bool) : IsNumberless (.bool b)
  | text (s : String) : IsNumberless (.text s)
  | list {xs : List Value} (each : ∀ x ∈ xs, IsNumberless x) : IsNumberless (.list xs)
  | record {fields : List (String × Value)} (each : ∀ f ∈ fields, IsNumberless f.2) :
      IsNumberless (.record fields)

theorem exists_jsonItems {depth : Nat} {xs : List Value}
    (each : ∀ x ∈ xs, ∃ s, Value.jsonAt depth x = .ok s ∧ IsTextOf x s.toList) :
    ∃ parts, Value.jsonItems depth xs = .ok parts ∧
      List.Forall₂ (fun x part => IsTextOf x part.toList) xs parts := by
  induction xs with
  | nil => exact ⟨[], rfl, .nil⟩
  | cons x xs ih =>
      obtain ⟨⟨s, written, isText⟩, later⟩ := List.forall_mem_cons.mp each
      obtain ⟨parts, more, others⟩ := ih later
      refine ⟨s :: parts, ?_, .cons isText others⟩
      rw [Value.jsonItems, written, more]
      rfl

theorem exists_jsonEntries {depth : Nat} {fields : List (String × Value)}
    (each : ∀ f ∈ fields, ∃ s, Value.jsonAt depth f.2 = .ok s ∧ IsTextOf f.2 s.toList) :
    ∃ parts, Value.jsonEntries depth (fields.map fun f => (Value.text f.1, f.2)) = .ok parts ∧
      List.Forall₂ (fun e part => ∃ key s, e.1 = .text key ∧ IsTextOf e.2 s ∧
        part.toList = (Value.jsonText key).toList ++ (':' :: ' ' :: s))
        (fields.map fun f => (Value.text f.1, f.2)) parts := by
  induction fields with
  | nil => exact ⟨[], rfl, .nil⟩
  | cons f fields ih =>
      obtain ⟨⟨s, written, isText⟩, later⟩ := List.forall_mem_cons.mp each
      obtain ⟨parts, more, others⟩ := ih later
      refine ⟨(Value.jsonText f.1 ++ ": " ++ s) :: parts, ?_,
        .cons ⟨f.1, s.toList, rfl, isText, ?_⟩ others⟩
      · rw [List.map_cons, Value.jsonEntries, Value.jsonKey, written, more]
        rfl
      · rw [String.toList_append, String.toList_append, List.append_assoc]
        rfl

/-- What is written for a value without numbers is a text of this value. -/
theorem IsNumberless.exists_text {v : Value} (numberless : IsNumberless v) :
    ∀ depth, ∃ s, Value.jsonAt depth v = .ok s ∧ IsTextOf v s.toList := by
  induction numberless with
  | null => exact fun depth => ⟨_, rfl, isTextOf_null⟩
  | bool b => exact fun depth => ⟨_, rfl, isTextOf_bool b⟩
  | text s => exact fun depth => ⟨_, rfl, isTextOf_text s⟩
  | @list xs _ ih =>
      intro depth
      obtain ⟨parts, written, each⟩ := exists_jsonItems fun x member => ih x member (depth + 1)
      refine ⟨_, ?_, isTextOf_list depth each⟩
      rw [Value.jsonAt, written]
      rfl
  | @record fields _ ih =>
      intro depth
      obtain ⟨parts, written, each⟩ := exists_jsonEntries fun f member => ih f member (depth + 1)
      refine ⟨_, ?_, isTextOf_map depth each⟩
      rw [Value.record, Value.jsonAt, written]
      rfl

/-- What is written for a value without numbers, with the end of a line, is one document. -/
theorem IsNumberless.exists_document {v : Value} (numberless : IsNumberless v) :
    ∃ s, v.json = .ok s ∧ Terminal.escape ∉ (s ++ "\n").toList ∧ read? (s ++ "\n") = some v := by
  obtain ⟨s, written, isText⟩ := numberless.exists_text 0
  refine ⟨s, written, ?_, ?_⟩
  · rw [String.toList_append, List.mem_append]
    exact not_or.mpr ⟨isText.clean, by decide⟩
  · have enough : s.toList.length ≤ (s ++ "\n").length := by
      rw [String.length_append, String.length_toList]
      omega
    have read := isText.reads _ enough [] ['\n'] (by simp [AreBlanks])
    rw [List.nil_append] at read
    rw [read?, String.toList_append]
    show (value? (s ++ "\n").length (s.toList ++ ['\n'])).bind _ = _
    rw [read]
    rfl

end Json
end Conveyor
