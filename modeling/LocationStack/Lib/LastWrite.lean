import Mathlib.Data.List.Basic

/-! # The last write

A log of writes, each to the place that its key names.  What a place holds is what was written to
it last; a log that goes on changes the places that its new writes name.
-/
namespace LocationStack.LastWrite

variable {α κ β : Type} [DecidableEq κ] (key : α → κ) (value : α → β)

/-- What a log leaves in a place. -/
def lastValue (x : κ) (log : List α) : Option β :=
  ((log.filter fun a => key a = x).getLast?).map value

variable {key value}

theorem lastValue_append (x : κ) (log more : List α) :
    lastValue key value x (log ++ more) =
      (lastValue key value x more).or (lastValue key value x log) := by
  simp only [lastValue, List.filter_append, List.getLast?_append, Option.map_or]

/-- Places that are not named keep what they hold. -/
theorem lastValue_eq_none {x : κ} {log : List α} (hnot : ∀ a ∈ log, key a ≠ x) :
    lastValue key value x log = none := by
  have hnil : (log.filter fun a => key a = x) = [] :=
    List.filter_eq_nil_iff.mpr fun a ha => by simpa using hnot a ha
  rw [lastValue, hnil]
  rfl

theorem lastValue_ne_none {x : κ} {log : List α} {a : α} (ha : a ∈ log) (hkey : key a = x) :
    lastValue key value x log ≠ none := by
  have hmem : a ∈ log.filter fun a => key a = x := List.mem_filter.mpr ⟨ha, by simpa using hkey⟩
  rw [lastValue, ne_eq, Option.map_eq_none_iff, List.getLast?_eq_none_iff]
  exact List.ne_nil_of_mem hmem

theorem lastValue_append_of_not_named {x : κ} (log : List α) {more : List α}
    (hnot : ∀ a ∈ more, key a ≠ x) :
    lastValue key value x (log ++ more) = lastValue key value x log := by
  rw [lastValue_append, lastValue_eq_none hnot, Option.none_or]

theorem lastValue_append_of_named {x : κ} (log : List α) {more : List α} {a : α}
    (ha : a ∈ more) (hkey : key a = x) :
    lastValue key value x (log ++ more) = lastValue key value x more := by
  obtain ⟨b, hb⟩ := Option.ne_none_iff_exists'.mp
    (lastValue_ne_none ha hkey)
  rw [lastValue_append, hb]
  rfl

/-- The same writes at the end leave the same. -/
theorem lastValue_append_congr {x : κ} {log log' : List α} (more : List α)
    (hlog : lastValue key value x log = lastValue key value x log') :
    lastValue key value x (log ++ more) = lastValue key value x (log' ++ more) := by
  rw [lastValue_append, lastValue_append, hlog]

end LocationStack.LastWrite
