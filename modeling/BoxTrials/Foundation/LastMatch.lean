import Mathlib.Data.List.Induction

/-!
# Last matches in a log

A component that is reconfigured by commands keeps, for each parameter, the
value of the last command that set it.  This module states "the last entry that
matters, and what came after it" for an arbitrary log, with the laws for a log
that grows at its end.
-/

namespace BoxTrials
namespace Foundation

variable {alpha beta : Type _}

/-- The last entry of a log that `f` reads a value from, as that value and the
entries after it. -/
def lastMatch (f : alpha -> Option beta) :
    List alpha -> Option (beta × List alpha)
  | [] => none
  | a :: rest =>
      match lastMatch f rest with
      | some found => some found
      | none => (f a).map fun b => (b, rest)

def lastValue (f : alpha -> Option beta) (log : List alpha) : Option beta :=
  (lastMatch f log).map Prod.fst

@[simp] theorem lastMatch_nil (f : alpha -> Option beta) :
    lastMatch f [] = none := rfl

@[simp] theorem lastValue_nil (f : alpha -> Option beta) :
    lastValue f [] = none := rfl

theorem lastMatch_snoc_of_some {f : alpha -> Option beta} {a : alpha} {b : beta}
    (log : List alpha) (h : f a = some b) :
    lastMatch f (log ++ [a]) = some (b, []) := by
  induction log with
  | nil =>
      simp [lastMatch, h]
  | cons x rest ih =>
      simp [lastMatch, ih]

theorem lastMatch_snoc_of_none {f : alpha -> Option beta} {a : alpha}
    (log : List alpha) (h : f a = none) :
    lastMatch f (log ++ [a]) =
      (lastMatch f log).map fun found => (found.1, found.2 ++ [a]) := by
  induction log with
  | nil =>
      simp [lastMatch, h]
  | cons x rest ih =>
      rw [List.cons_append, lastMatch, ih, lastMatch]
      cases lastMatch f rest with
      | some found =>
          rfl
      | none =>
          cases f x <;> rfl

theorem lastValue_snoc (f : alpha -> Option beta) (log : List alpha) (a : alpha) :
    lastValue f (log ++ [a]) = (f a).or (lastValue f log) := by
  cases h : f a with
  | none =>
      rw [lastValue, lastMatch_snoc_of_none log h, lastValue, Option.map_map]
      rfl
  | some b =>
      simp [lastValue, lastMatch_snoc_of_some log h]

theorem lastValue_cons (f : alpha -> Option beta) (a : alpha) (log : List alpha) :
    lastValue f (a :: log) = (lastValue f log).or (f a) := by
  rw [lastValue, lastMatch, lastValue]
  cases lastMatch f log with
  | some found => rfl
  | none => cases f a <;> rfl

theorem getLast?_filterMap (f : alpha -> Option beta) (log : List alpha) :
    (log.filterMap f).getLast? = lastValue f log := by
  induction log using List.reverseRecOn with
  | nil =>
      rfl
  | append_singleton log a ih =>
      rw [lastValue_snoc, ← ih, List.filterMap_append, List.getLast?_append]
      cases h : f a with
      | none => simp [h]
      | some b => simp [h]

theorem lastValue_congr {f g : alpha -> Option beta} {log : List alpha}
    (h : forall a, a ∈ log -> f a = g a) : lastValue f log = lastValue g log := by
  induction log with
  | nil =>
      rfl
  | cons x rest ih =>
      rw [lastValue_cons, lastValue_cons, h x (List.mem_cons_self ..),
        ih fun a ha => h a (List.mem_cons_of_mem x ha)]

theorem lastValue_append (f : alpha -> Option beta) (log later : List alpha) :
    lastValue f (log ++ later) = (lastValue f later).or (lastValue f log) := by
  induction later using List.reverseRecOn with
  | nil =>
      rw [List.append_nil]
      rfl
  | append_singleton later a ih =>
      rw [← List.append_assoc, lastValue_snoc, ih, lastValue_snoc, Option.or_assoc]

theorem lastMatch_eq_none_iff {f : alpha -> Option beta} {log : List alpha} :
    lastMatch f log = none <-> forall a, a ∈ log -> f a = none := by
  induction log with
  | nil =>
      simp
  | cons x rest ih =>
      rw [lastMatch]
      cases hrest : lastMatch f rest with
      | some found =>
          have hsome : ¬ forall a, a ∈ rest -> f a = none := by
            rw [← ih, hrest]
            simp
          constructor
          · intro h
            cases h
          · intro h
            exact absurd (fun a ha => h a (List.mem_cons_of_mem x ha)) hsome
      | none =>
          have hnone := ih.mp hrest
          simp only [Option.map_eq_none_iff, List.mem_cons, forall_eq_or_imp]
          constructor
          · intro h
            exact ⟨h, hnone⟩
          · intro h
            exact h.left

theorem lastMatch_eq_some {f : alpha -> Option beta} {log later : List alpha}
    {b : beta} (h : lastMatch f log = some (b, later)) :
    exists before a, log = before ++ a :: later ∧ f a = some b ∧
      forall x, x ∈ later -> f x = none := by
  induction log with
  | nil =>
      cases h
  | cons x rest ih =>
      rw [lastMatch] at h
      cases hrest : lastMatch f rest with
      | some found =>
          rw [hrest] at h
          cases h
          rcases ih hrest with ⟨before, a, hsplit, hvalue, hlater⟩
          exact ⟨x :: before, a, by rw [hsplit]; rfl, hvalue, hlater⟩
      | none =>
          rw [hrest] at h
          rcases Option.map_eq_some_iff.mp h with ⟨value, hvalue, hpair⟩
          cases hpair
          exact ⟨[], x, rfl, hvalue, lastMatch_eq_none_iff.mp hrest⟩

theorem lastValue_eq_none_iff {f : alpha -> Option beta} {log : List alpha} :
    lastValue f log = none <-> forall a, a ∈ log -> f a = none := by
  rw [lastValue, Option.map_eq_none_iff, lastMatch_eq_none_iff]

theorem lastValue_append_of_none {f : alpha -> Option beta}
    (log : List alpha) {later : List alpha}
    (h : forall a, a ∈ later -> f a = none) :
    lastValue f (log ++ later) = lastValue f log := by
  rw [lastValue_append, lastValue_eq_none_iff.mpr h]
  rfl

theorem lastValue_eq_some {f : alpha -> Option beta} {log : List alpha} {b : beta}
    (h : lastValue f log = some b) : exists a, a ∈ log ∧ f a = some b := by
  rcases Option.map_eq_some_iff.mp h with ⟨found, hfound, rfl⟩
  rcases @lastMatch_eq_some _ _ f log found.2 found.1 hfound with
    ⟨before, a, rfl, hvalue, _⟩
  exact ⟨a, by simp, hvalue⟩

theorem lastValue_split {f : alpha -> Option beta} {a : alpha} {b : beta}
    (log later : List alpha) (h : f a = some b) :
    exists x y, x ∈ a :: later ∧ f x = some y ∧
      lastValue f (log ++ a :: later) = some y := by
  rw [lastValue_append]
  cases hlast : lastValue f (a :: later) with
  | none =>
      rw [lastValue_eq_none_iff.mp hlast a (List.mem_cons_self ..)] at h
      cases h
  | some y =>
      rcases lastValue_eq_some hlast with ⟨x, hmem, hvalue⟩
      exact ⟨x, y, hmem, hvalue, rfl⟩

/-!
# Splits of a log

An entry of a log that has grown is the new one, or splits the log as before.
-/

theorem snoc_eq_append_cons {as before after : List alpha} {a b : alpha}
    (h : as ++ [a] = before ++ b :: after) :
    (after = [] ∧ as = before ∧ a = b) ∨
      exists after', after = after' ++ [a] ∧ as = before ++ b :: after' := by
  rcases List.eq_nil_or_concat after with rfl | ⟨after', c, rfl⟩
  · rcases List.append_singleton_inj.mp h with ⟨hsame, hlast⟩
    exact Or.inl ⟨rfl, hsame, hlast⟩
  · rw [List.concat_eq_append] at h ⊢
    rw [← List.cons_append, ← List.append_assoc] at h
    rcases List.append_singleton_inj.mp h with ⟨hsame, hlast⟩
    exact Or.inr ⟨after', by rw [hlast], hsame⟩

end Foundation
end BoxTrials
