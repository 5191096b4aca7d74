import Conveyor.Artifact.CloudTemplate
import Conveyor.Proofs.Log.Outcome
import Mathlib.Data.List.TakeWhile

/-!
# The identifier of a repository

An address is cut behind the last occurrence of the host in its first line, and the lines after the
first one are kept (`IsAfterLast`). So the first line of an identifier never holds the host, and an
identifier is its own identifier. An address whose first line does not hold the host is taken as it
is, with one warning unless it is empty (`repositoryId_text`).
-/

set_option autoImplicit false

namespace Conveyor.CloudTemplate

open Logged

/-! ## Occurrences in the first line -/

/-- A text up to its first line feed. -/
def firstLine (s : List Char) : List Char := s.takeWhile (· ≠ '\n')

/-- The rest of a text behind the last occurrence of a needle in its first line. -/
def IsAfterLast (needle s rest : List Char) : Prop :=
  ∃ before, s = before ++ needle ++ rest ∧ before ++ needle <+: firstLine s ∧
    ∀ other, other ++ needle <+: firstLine s → other.length ≤ before.length

variable {needle s rest : List Char} {c : Char}

theorem firstLine_cons (inLine : c ≠ '\n') (s : List Char) :
    firstLine (c :: s) = c :: firstLine s :=
  List.takeWhile_cons_of_pos (by simpa using inLine)

theorem firstLine_feed (s : List Char) : firstLine ('\n' :: s) = [] :=
  List.takeWhile_cons_of_neg (by simp)

/-- A beginning of a text that has no line feed is followed by the rest of the first line. -/
theorem firstLine_append {before : List Char} (single : '\n' ∉ before) (s : List Char) :
    firstLine (before ++ s) = before ++ firstLine s :=
  List.takeWhile_append_of_pos fun c member => by
    simpa using ne_of_mem_of_not_mem member single

theorem not_mem_firstLine (s : List Char) : '\n' ∉ firstLine s :=
  fun member => by simpa using List.mem_takeWhile_imp member

/-- An occurrence stays the last one if a character is put in front of the text. -/
theorem IsAfterLast.cons (h : IsAfterLast needle s rest) (inLine : c ≠ '\n') :
    IsAfterLast needle (c :: s) rest := by
  obtain ⟨before, cut, within, latest⟩ := h
  refine ⟨c :: before, by rw [cut]; rfl, ?_, fun other occurs => ?_⟩
  · rw [firstLine_cons inLine]
    exact (List.prefix_cons_inj c).mpr within
  · rw [firstLine_cons inLine] at occurs
    cases other with
    | nil => exact Nat.zero_le _
    | cons d other =>
        exact Nat.succ_le_succ (latest other (List.cons_prefix_cons.mp occurs).2)

/-- An occurrence at the beginning of a text is the last one if there is none further on. -/
theorem isAfterLast_drop (single : '\n' ∉ needle) (inLine : c ≠ '\n')
    (starts : needle <+: c :: s) (none_ : ¬ needle <:+: firstLine s) :
    IsAfterLast needle (c :: s) ((c :: s).drop needle.length) := by
  have whole : c :: s = needle ++ (c :: s).drop needle.length :=
    (List.prefix_iff_eq_append.mp starts).symm
  refine ⟨[], whole, ?_, fun other occurs => ?_⟩
  · rw [List.nil_append, whole, firstLine_append single]
    exact List.prefix_append _ _
  · rw [firstLine_cons inLine] at occurs
    cases other with
    | nil => exact Nat.le_refl _
    | cons d other =>
        obtain ⟨after, same⟩ := (List.cons_prefix_cons.mp occurs).2
        exact absurd ⟨other, after, same⟩ none_

/-- What is found stands behind the last occurrence in the first line; where nothing is found there
is no occurrence. -/
theorem afterLast?_spec (single : '\n' ∉ needle) (filled : needle ≠ []) :
    ∀ s : List Char,
      (∀ rest, afterLast? needle s = some rest → IsAfterLast needle s rest) ∧
      (afterLast? needle s = none → ¬ needle <:+: firstLine s)
  | [] => ⟨nofun, fun _ occurs => filled (List.infix_nil.mp occurs)⟩
  | c :: s => by
      obtain ⟨found, none_⟩ := afterLast?_spec single filled s
      rw [afterLast?]
      by_cases feed : c = '\n'
      · rw [if_pos feed, feed, firstLine_feed]
        exact ⟨nofun, fun _ occurs => filled (List.infix_nil.mp occurs)⟩
      · rw [if_neg feed]
        cases further : afterLast? needle s with
        | some rest =>
            refine ⟨?_, nofun⟩
            rintro _ ⟨⟩
            exact (found rest further).cons feed
        | none =>
            dsimp only
            by_cases starts : needle <+: c :: s
            · rw [if_pos (List.isPrefixOf_iff_prefix.mpr starts)]
              refine ⟨?_, nofun⟩
              rintro _ ⟨⟩
              exact isAfterLast_drop single feed starts (none_ further)
            · rw [if_neg fun here => starts (List.isPrefixOf_iff_prefix.mp here)]
              refine ⟨nofun, fun _ occurs => ?_⟩
              rw [firstLine_cons feed] at occurs
              rcases List.infix_cons_iff.mp occurs with here | there
              · exact starts (here.trans ((List.prefix_cons_inj c).mpr (List.takeWhile_prefix _)))
              · exact none_ further there

/-- The first line of what stands behind the last occurrence has no occurrence. -/
theorem IsAfterLast.not_infix (h : IsAfterLast needle s rest) (filled : needle ≠ []) :
    ¬ needle <:+: firstLine rest := by
  obtain ⟨before, cut, within, latest⟩ := h
  rintro ⟨between, after, same⟩
  have single : '\n' ∉ before ++ needle := fun member =>
    not_mem_firstLine s (within.subset member)
  have later : (before ++ needle ++ between) ++ needle <+: firstLine s := by
    rw [cut, firstLine_append single, ← same]
    exact ⟨after, by simp⟩
  have length := latest _ later
  rw [List.length_append, List.length_append] at length
  have positive := List.length_pos_iff.mpr filled
  omega

theorem IsAfterLast.isInfix (h : IsAfterLast needle s rest) : needle <:+: firstLine s := by
  obtain ⟨before, -, ⟨after, same⟩, -⟩ := h
  exact ⟨before, after, same⟩

theorem IsAfterLast.isSuffix (h : IsAfterLast needle s rest) : rest <:+ s := by
  obtain ⟨before, rfl, -, -⟩ := h
  exact List.suffix_append _ _

/-! ## Addresses -/

theorem single_host : '\n' ∉ host := by decide

theorem host_ne_nil : host ≠ [] := by decide

/-- The warning about an address whose first line does not hold the host. -/
def foreignAddress (address : String) : Log.Record :=
  ⟨.warning, Log.packageName ++ ".codepipeline",
    "Repository URL '" ++ address ++ "' is not a github.com URL; "
      ++ "using it unchanged as the repository identifier"⟩

variable {env : Environment} {journal : Log.Journal} {address : String}

theorem isTruthy_text (filled : address ≠ "") : (Value.text address).isTruthy = true := by
  simp [Value.isTruthy, filled]

/-- An address that holds the host in its first line is cut, and nothing is logged. -/
theorem perform_repositoryId_of_some {id : List Char}
    (found : afterLast? host address.toList = some id) :
    (repositoryId (.text address)).perform env journal =
      (.ok (.text (String.ofList id)), journal) := by
  have filled : address ≠ "" := by
    rintro rfl
    cases found
  unfold repositoryId
  rw [isTruthy_text filled, if_neg (by simp)]
  dsimp only
  rw [found]
  rfl

/-- Any other address is kept, with a warning unless it is empty. -/
theorem perform_repositoryId_of_none (none_ : afterLast? host address.toList = none)
    (ready : Log.IsReady env journal) :
    ∃ later, (repositoryId (.text address)).perform env journal = (.ok (.text address), later) ∧
      later.records =
        journal.records ++ (if address = "" then [] else [foreignAddress address]) := by
  by_cases empty : address = ""
  · subst empty
    exact ⟨journal, rfl, by simp⟩
  · obtain ⟨later, logged, records⟩ := Log.records_event ready .warning "codepipeline"
      (foreignAddress address).message
    refine ⟨later, ?_, by rw [if_neg empty]; exact records⟩
    have performed : (do
        Log.event .warning "codepipeline" (foreignAddress address).message
        return Value.text address : Logged Value).perform env journal =
          (.ok (.text address), later) := by
      rw [perform_bind, logged]
      rfl
    unfold repositoryId
    rw [isTruthy_text empty, if_neg (by simp)]
    dsimp only
    rw [none_]
    exact performed

/-- **The identifier of a repository is what stands behind the last occurrence of the host in the
first line of its address**, or the whole address, with one warning unless it is empty. It is the
end of the address, its first line does not hold the host, and it is its own identifier. -/
theorem repositoryId_text (standard : Log.HasStandardLevel env) (address : String)
    (journal : Log.Journal) :
    ∃ id later,
      (repositoryId (.text address)).perform env journal = (.ok (.text id), later) ∧
      (host <:+: firstLine address.toList →
        IsAfterLast host address.toList id.toList ∧ later = journal) ∧
      (¬ host <:+: firstLine address.toList →
        id = address ∧ later.records =
          journal.records ++ (if address = "" then [] else [foreignAddress address])) ∧
      ¬ host <:+: firstLine id.toList ∧ id.toList <:+ address.toList ∧
      ∀ journal', ((repositoryId (.text id)).perform env journal').1 = .ok (.text id) := by
  obtain ⟨found, none_⟩ := afterLast?_spec single_host host_ne_nil address.toList
  have kept {id : String} (foreign : ¬ host <:+: firstLine id.toList) (journal' : Log.Journal) :
      ((repositoryId (.text id)).perform env journal').1 = .ok (.text id) := by
    cases cut : afterLast? host id.toList with
    | some rest =>
        exact absurd ((afterLast?_spec single_host host_ne_nil _).1 rest cut).isInfix foreign
    | none =>
        obtain ⟨later, performed, -⟩ :=
          perform_repositoryId_of_none cut (show Log.IsReady env journal' from .inr standard)
        rw [performed]
  cases cut : afterLast? host address.toList with
  | some id =>
      have after := found id cut
      have foreign : ¬ host <:+: firstLine (String.ofList id).toList := by
        rw [String.toList_ofList]
        exact after.not_infix host_ne_nil
      refine ⟨String.ofList id, journal, perform_repositoryId_of_some cut, fun _ => ⟨?_, rfl⟩,
        fun absent => absurd after.isInfix absent, foreign, ?_, kept foreign⟩
      · rw [String.toList_ofList]
        exact after
      · rw [String.toList_ofList]
        exact after.isSuffix
  | none =>
      have foreign := none_ cut
      obtain ⟨later, performed, records⟩ :=
        perform_repositoryId_of_none cut (show Log.IsReady env journal from .inr standard)
      exact ⟨address, later, performed, fun there => absurd there foreign,
        fun _ => ⟨rfl, records⟩, foreign, List.suffix_refl _, kept foreign⟩

/-- Of three occurrences, the second one is the last one in the first line. -/
theorem repositoryId_text_repeated :
    Log.HasStandardLevel {} ∧
    ((repositoryId (.text "github.com/github.com/a\ngithub.com/b")).perform {} {}).1 =
      .ok (.text "a\ngithub.com/b") ∧
    ¬ host <:+: firstLine "a\ngithub.com/b".toList := by
  obtain ⟨id, later, performed, -, -, foreign, -, -⟩ :=
    repositoryId_text Log.hasStandardLevel_nil "github.com/github.com/a\ngithub.com/b" {}
  have cut : ((repositoryId (.text "github.com/github.com/a\ngithub.com/b")).perform {} {}).1 =
      .ok (.text "a\ngithub.com/b") := rfl
  rw [performed, Except.ok.injEq, Value.text.injEq] at cut
  rw [performed]
  exact ⟨Log.hasStandardLevel_nil, by rw [cut], cut ▸ foreign⟩

end Conveyor.CloudTemplate
