import Mathlib.Data.List.TakeWhile

namespace Foundation

/-- The tokens of a text: its longest parts without a separator, in their
order. -/
inductive Tokens {α : Type} (Separates : α → Prop) : List α → List (List α) → Prop
  | nil : Tokens Separates [] []
  | separator {c text tokens} : Separates c → Tokens Separates text tokens → Tokens Separates (c :: text) tokens
  | last {token} : token ≠ [] → (∀ c ∈ token, ¬ Separates c) → Tokens Separates token [token]
  | token {token c text tokens} : token ≠ [] → (∀ c ∈ token, ¬ Separates c) → Separates c →
      Tokens Separates text tokens → Tokens Separates (token ++ c :: text) (token :: tokens)

section
variable {α : Type} {Separates : α → Prop} {separates : α → Bool}

theorem Tokens.exists_of_text (decides : ∀ c, separates c = true ↔ Separates c) (text : List α) :
    ∃ tokens, Tokens Separates text tokens := by
  induction size : text.length using Nat.strongRecOn generalizing text with
  | ind n ih =>
    subst size
    cases text with
    | nil => exact ⟨[], .nil⟩
    | cons c later =>
      by_cases separator : Separates c
      · obtain ⟨tokens, rest⟩ := ih later.length (Nat.lt_succ_self _) later rfl
        exact ⟨tokens, .separator separator rest⟩
      -- the token ends in front of the first separator, if there is one
      have whole := List.takeWhile_append_dropWhile (p := fun c => !separates c) (l := c :: later)
      have inside : ∀ d ∈ (c :: later).takeWhile fun c => !separates c, ¬ Separates d := by
        intro d member
        have kept : (!separates d) = true := List.mem_takeWhile_imp (p := fun c => !separates c) member
        rwa [← decides, Bool.not_eq_true, ← Bool.not_eq_true']
      have some : (c :: later).takeWhile (fun c => !separates c) ≠ [] := by
        rw [← decides, Bool.not_eq_true] at separator
        simp [separator]
      cases rest : (c :: later).dropWhile fun c => !separates c with
      | nil =>
        rw [rest, List.append_nil] at whole
        rw [whole] at inside
        exact ⟨[c :: later], .last (by simp) inside⟩
      | cons d text =>
        rw [rest] at whole
        have ends : Separates d := by
          have stopped := List.head?_dropWhile_not (fun c => !separates c) (c :: later)
          rw [rest, List.head?_cons] at stopped
          simpa [decides] using stopped
        have shorter : text.length < (c :: later).length := by
          rw [← whole, List.length_append, List.length_cons]
          omega
        obtain ⟨tokens, tail⟩ := ih text.length shorter text rfl
        rw [← whole]
        exact ⟨_, .token some inside ends tail⟩

/-- The tokens are the parts between separators that are not empty. -/
theorem Tokens.eq_split (decides : ∀ c, separates c = true ↔ Separates c) {text : List α} {tokens : List (List α)}
    (split : Tokens Separates text tokens) :
    (text.splitOnP separates).filter (fun token => !token.isEmpty) = tokens := by
  have outside : ∀ {token : List α}, (∀ c ∈ token, ¬ Separates c) → ∀ c ∈ token, separates c = false := by
    intro token inside c member
    rw [← Bool.not_eq_true, decides]
    exact inside c member
  induction split with
  | nil => rfl
  | separator ends _ ih =>
    rw [List.splitOnP_cons_eq_if_modifyHead, if_pos ((decides _).mpr ends)]
    exact ih
  | @last token some inside =>
    rw [List.splitOnP_eq_singleton (outside inside)]
    simp [some]
  | @token token c text tokens some inside ends _ ih =>
    rw [List.splitOnP_append_cons_of_forall_mem (outside inside) c ((decides c).mpr ends),
      List.filter_cons_of_pos (by simp [some]), ih]

theorem tokens_iff (decides : ∀ c, separates c = true ↔ Separates c) {text : List α} {tokens : List (List α)} :
    Tokens Separates text tokens ↔ (text.splitOnP separates).filter (fun token => !token.isEmpty) = tokens := by
  constructor
  · exact Tokens.eq_split decides
  · intro same
    obtain ⟨others, split⟩ := Tokens.exists_of_text decides text
    rw [split.eq_split decides] at same
    rw [← same]
    exact split

end

end Foundation
