import Mathlib.Data.List.Basic
import Mathlib.Data.Int.Order.Basic
import Mathlib.Order.Lattice

set_option autoImplicit false

namespace AbilityRuntime.Library

open List Int

section LowerBound

variable {A : Type} [LinearOrder A]

def lowerBoundIn (values : List A) (bound : A) : Nat -> Nat -> Nat -> Nat
  | 0, first, _ => first
  | fuel + 1, first, count =>
    if count = 0 then first
    else
      match values[first + count / 2]? with
      | none => first
      | some middle =>
        if middle < bound then
          lowerBoundIn values bound fuel (first + count / 2 + 1) (count - (count / 2 + 1))
        else lowerBoundIn values bound fuel first (count / 2)

def lowerBound (values : List A) (bound : A) : Nat :=
  lowerBoundIn values bound values.length 0 values.length

def Parts (values : List A) (bound : A) (place : Nat) : Prop :=
  (∀ index value, values[index]? = some value -> index < place -> value < bound) ∧
    ∀ index value, values[index]? = some value -> place ≤ index -> bound ≤ value

theorem lowerBoundIn_parts {values : List A} (sorted : values.Pairwise (· ≤ ·)) (bound : A) :
    ∀ fuel first count, count ≤ fuel -> first + count ≤ values.length ->
      (∀ index value, values[index]? = some value -> index < first -> value < bound) ->
      (∀ index value, values[index]? = some value -> first + count ≤ index -> bound ≤ value) ->
      Parts values bound (lowerBoundIn values bound fuel first count) := by
  have ordered : ∀ {index other : Nat} {value more : A}, values[index]? = some value ->
      values[other]? = some more -> index ≤ other -> value ≤ more := by
    intro index other value more here there before
    obtain ⟨inside, rfl⟩ := List.getElem?_eq_some_iff.mp here
    obtain ⟨within, rfl⟩ := List.getElem?_eq_some_iff.mp there
    rcases Nat.eq_or_lt_of_le before with rfl | earlier
    · exact le_refl _
    · exact List.pairwise_iff_getElem.mp sorted _ _ _ _ earlier
  intro fuel
  induction fuel with
  | zero =>
    intro first count few _ below above
    obtain rfl : count = 0 := by omega
    exact ⟨below, above⟩
  | succ fuel ih =>
    intro first count few inside below above
    unfold lowerBoundIn
    split
    next none =>
      subst none
      exact ⟨below, above⟩
    next some =>
      have half : first + count / 2 < values.length := by omega
      rw [List.getElem?_eq_getElem half]
      have middle := List.getElem?_eq_getElem half
      dsimp only
      split
      next low =>
        refine ih _ _ (by omega) (by omega) ?_ ?_
        · intro index value found before
          exact lt_of_le_of_lt (ordered found middle (by omega)) low
        · intro index value found after
          exact above index value found (by omega)
      next high =>
        refine ih _ _ (by omega) (by omega) below ?_
        intro index value found after
        exact le_trans (not_lt.mp high) (ordered middle found after)

theorem lowerBound_parts {values : List A} (sorted : values.Pairwise (· ≤ ·)) (bound : A) :
    Parts values bound (lowerBound values bound) := by
  refine lowerBoundIn_parts sorted bound _ _ _ (Nat.le_refl _) (by omega) (by omega) ?_
  intro index value found after
  obtain ⟨inside, -⟩ := List.getElem?_eq_some_iff.mp found
  omega

theorem drop_lowerBound {values : List A} (sorted : values.Pairwise (· ≤ ·)) (bound : A) :
    values.drop (lowerBound values bound) = values.filter (bound ≤ ·) := by
  obtain ⟨below, above⟩ := lowerBound_parts sorted bound
  have split := take_append_drop (lowerBound values bound) values
  have early : (values.take (lowerBound values bound)).filter (bound ≤ ·) = [] := by
    rw [filter_eq_nil_iff]
    intro value mem
    obtain ⟨index, found⟩ := mem_iff_getElem?.mp mem
    rw [getElem?_take] at found
    split at found
    next before => simpa using below index value found before
    · cases found
  have late : (values.drop (lowerBound values bound)).filter (bound ≤ ·) =
      values.drop (lowerBound values bound) := by
    rw [filter_eq_self]
    intro value mem
    obtain ⟨index, found⟩ := mem_iff_getElem?.mp mem
    rw [getElem?_drop] at found
    simpa using above _ value found (by omega)
  conv_rhs => rw [<- split, filter_append, early, late, nil_append]

end LowerBound

def countWithin (start interval : Int) (times : List Int) : Nat :=
  times.countP fun time => start ≤ time ∧ time ≤ start + interval

/-- No closed window of the length holds more of the times than the limit. -/
def AtMost (limit : Nat) (interval : Int) (times : List Int) : Prop :=
  ∀ start, countWithin start interval times ≤ limit

structure Tracks (interval latest : Int) (stamps times : List Int) : Prop where
  sorted : stamps.Pairwise (· ≤ ·)
  past : ∀ stamp ∈ stamps, stamp ≤ latest
  timesPast : ∀ time ∈ times, time ≤ latest
  recent : ∀ now, latest ≤ now ->
    stamps.filter (now - interval ≤ ·) = times.filter (now - interval ≤ ·)

variable {interval latest now : Int} {stamps times : List Int} {limit : Nat}

theorem tracks_nil (interval latest : Int) : Tracks interval latest [] [] :=
  ⟨.nil, by simp, by simp, fun _ _ => rfl⟩

theorem atMost_nil (limit : Nat) (interval : Int) : AtMost limit interval [] :=
  fun _ => Nat.zero_le _

section

variable (tracked : Tracks interval latest stamps times)
include tracked

theorem Tracks.drop (passed : latest ≤ now) {bound : Int} (expired : bound ≤ now - interval) :
    Tracks interval now (stamps.filter (bound ≤ ·)) times where
  sorted := tracked.sorted.filter _
  past := fun stamp mem =>
    le_trans (tracked.past stamp (mem_of_mem_filter mem)) passed
  timesPast := fun time mem => le_trans (tracked.timesPast time mem) passed
  recent := fun later after => by
    rw [<- tracked.recent later (le_trans passed after), filter_filter]
    refine filter_congr fun stamp _ => ?_
    by_cases inside : later - interval ≤ stamp
    · have kept : bound ≤ stamp := by omega
      simp [inside, kept]
    · simp [inside]

theorem Tracks.later (passed : latest ≤ now) : Tracks interval now stamps times where
  sorted := tracked.sorted
  past := fun stamp mem => le_trans (tracked.past stamp mem) passed
  timesPast := fun time mem => le_trans (tracked.timesPast time mem) passed
  recent := fun later after => tracked.recent later (le_trans passed after)

theorem Tracks.dropAll (passed : latest ≤ now)
    (expired : stamps.all (· < now - interval) = true) : Tracks interval now [] times := by
  have dropped := tracked.drop passed (le_refl (now - interval))
  have nothing : stamps.filter (now - interval ≤ ·) = [] := by
    rw [filter_eq_nil_iff]
    intro stamp mem
    have old := all_eq_true.mp expired stamp mem
    simp only [decide_eq_true_eq] at old ⊢
    omega
  rwa [nothing] at dropped

end

theorem Tracks.add (tracked : Tracks interval now stamps times) :
    Tracks interval now (stamps ++ [now]) (times ++ [now]) where
  sorted := pairwise_append.mpr ⟨tracked.sorted, pairwise_singleton _ _, by
    intro stamp mem last only
    rw [mem_singleton.mp only]
    exact tracked.past stamp mem⟩
  past := by
    intro stamp mem
    rcases mem_append.mp mem with old | only
    · exact tracked.past stamp old
    · exact le_of_eq (mem_singleton.mp only)
  timesPast := by
    intro time mem
    rcases mem_append.mp mem with old | only
    · exact tracked.timesPast time old
    · exact le_of_eq (mem_singleton.mp only)
  recent := fun later after => by
    rw [filter_append, filter_append, tracked.recent later after]

theorem Tracks.length_recent (tracked : Tracks interval now stamps times) :
    (stamps.filter (now - interval ≤ ·)).length = countWithin (now - interval) interval times := by
  rw [tracked.recent now (le_refl _), countWithin, countP_eq_length_filter]
  congr 1
  refine filter_congr fun time mem => ?_
  have before := tracked.timesPast time mem
  by_cases inside : now - interval ≤ time <;> simp [inside, before]

theorem AtMost.add (bounded : AtMost limit interval times)
    (past : ∀ time ∈ times, time ≤ now)
    (room : countWithin (now - interval) interval times < limit) :
    AtMost limit interval (times ++ [now]) := by
  intro start
  rw [countWithin, countP_append]
  by_cases inside : start ≤ now ∧ now ≤ start + interval
  · -- A window that holds the new time reaches no further back than the one that ends at it.
    have fewer : countWithin start interval times ≤
        countWithin (now - interval) interval times := by
      refine countP_mono_left fun time mem holds => ?_
      have before := past time mem
      simp only [decide_eq_true_eq] at holds ⊢
      omega
    have single : ([now] : List Int).countP (fun time => start ≤ time ∧ time ≤ start + interval) ≤
        1 := countP_le_length
    rw [countWithin] at fewer
    omega
  · have outside : ([now] : List Int).countP
        (fun time => start ≤ time ∧ time ≤ start + interval) = 0 := by
      simpa [countP_cons] using inside
    rw [outside]
    exact bounded start

end AbilityRuntime.Library
