import Mathlib.Data.List.AList
import Mathlib.Data.List.Induction

namespace LMonitor.Library

/-- A map keeps one value for each of its keys, in an iteration order that no result depends on. -/
abbrev UnorderedMap (K V : Type) := AList fun _ : K => V

namespace UnorderedMap
variable {K V : Type}

/-- These are the values in iteration order. -/
def values (table : UnorderedMap K V) : List V := table.entries.map Sigma.snd

/-- A loop over all entries changes each value in place. -/
def mapValues (change : K → V → V) (table : UnorderedMap K V) : UnorderedMap K V :=
  ⟨table.entries.map (Sigma.map id change), table.nodupKeys.map₂ change table.entries⟩

variable [DecidableEq K]

@[simp] theorem lookup_mapValues (change : K → V → V) (table : UnorderedMap K V) (key : K) :
    (mapValues change table).lookup key = (table.lookup key).map (change key) :=
  List.dlookup_map₂ key

theorem mem_values (table : UnorderedMap K V) (value : V) :
    value ∈ values table ↔ ∃ key, table.lookup key = some value := by
  simp only [values, List.mem_map]
  constructor
  · intro given
    obtain ⟨⟨key, stored⟩, member, rfl⟩ := given
    exact ⟨key, AList.mem_lookup_iff.mpr member⟩
  · intro given
    obtain ⟨key, found⟩ := given
    exact ⟨⟨key, value⟩, AList.mem_lookup_iff.mp found, rfl⟩

/-- A loop over the items stores each one under its key. -/
def indexBy (key : V → K) (items : List V) : UnorderedMap K V :=
  items.foldl (fun table item => table.insert (key item) item) ∅

/-- Items with different keys are found under their keys. -/
theorem lookup_indexBy {key : V → K} {items : List V} (distinct : (items.map key).Nodup)
    (wanted : K) (item : V) :
    (indexBy key items).lookup wanted = some item ↔ item ∈ items ∧ key item = wanted := by
  induction items using List.reverseRecOn with
  | nil => simp [indexBy]
  | append_singleton items last ih =>
      have step : indexBy key (items ++ [last]) = (indexBy key items).insert (key last) last := by
        rw [indexBy, List.foldl_concat]
        rfl
      rw [List.map_append, List.nodup_append] at distinct
      obtain ⟨earlier, _, apart⟩ := distinct
      rw [step]
      by_cases same : wanted = key last
      · subst same
        have other : ¬ (item ∈ items ∧ key item = key last) := by
          rintro ⟨member, equal⟩
          exact apart _ (List.mem_map_of_mem member) _ (by simp) equal
        rw [AList.lookup_insert, Option.some_inj, List.mem_append, List.mem_singleton, or_and_right]
        constructor
        · rintro rfl
          exact .inr ⟨rfl, rfl⟩
        · rintro (inside | ⟨rfl, _⟩)
          · exact absurd inside other
          · rfl
      · rw [AList.lookup_insert_ne same, ih earlier, List.mem_append, List.mem_singleton,
          or_and_right]
        constructor
        · exact .inl
        · rintro (inside | ⟨rfl, rfl⟩)
          · exact inside
          · exact absurd rfl same

end UnorderedMap
end LMonitor.Library
