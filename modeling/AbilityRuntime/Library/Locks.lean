import Mathlib.Tactic.Common

set_option autoImplicit false

namespace AbilityRuntime.Library

open Function
variable {State Key : Type}

/-- What each thread's state says about the locks that it holds is what the locks say. -/
def Held (holds : State → Key → Prop) (threads : Nat → State) (holder : Key → Option Nat) : Prop :=
  ∀ thread key, holds (threads thread) key ↔ holder key = some thread

namespace Held

variable {holds : State -> Key -> Prop} {threads : Nat -> State} {holder : Key -> Option Nat}
  {thread : Nat} {state : State} {key : Key}

theorem unique (held : Held holds threads holder) {other : Nat} (first : holds (threads thread) key)
    (second : holds (threads other) key) : thread = other :=
  Option.some.inj (((held thread key).mp first).symm.trans ((held other key).mp second))

theorem nobody (held : Held holds threads holder) (free : holder key = none) :
    ¬ holds (threads thread) key := by
  intro holding
  simp [(held thread key).mp holding] at free

theorem keep (held : Held holds threads holder)
    (same : ∀ key, holds state key ↔ holds (threads thread) key) :
    Held holds (update threads thread state) holder := by
  intro other key
  by_cases moved : other = thread
  · subst moved
    rw [update_self, same]
    exact held other key
  · rw [update_of_ne moved]
    exact held other key

variable [DecidableEq Key]

theorem take (held : Held holds threads holder) (key : Key) (free : holder key = none)
    (more : ∀ other, holds state other ↔ other = key ∨ holds (threads thread) other) :
    Held holds (update threads thread state) (update holder key (some thread)) := by
  intro other lock
  by_cases taken : lock = key
  · subst taken
    by_cases moved : other = thread
    · simp [moved, more]
    · simp [moved, Ne.symm moved, held.nobody free]
  · by_cases moved : other = thread
    · simp [moved, more, taken, held thread lock]
    · simp [moved, taken, held other lock]

theorem release (held : Held holds threads holder) (key : Key)
    (holding : holds (threads thread) key)
    (fewer : ∀ other, holds state other ↔ other ≠ key ∧ holds (threads thread) other) :
    Held holds (update threads thread state) (update holder key none) := by
  intro other lock
  by_cases given : lock = key
  · subst given
    by_cases moved : other = thread
    · simp [moved, fewer]
    · have apart : ¬ holds (threads other) lock := fun second => moved (held.unique second holding)
      simp [moved, apart]
  · by_cases moved : other = thread
    · simp [moved, fewer, given, held thread lock]
    · simp [moved, given, held other lock]

section

variable {holdsIt : State -> Unit -> Prop} {lock : Option Nat}

theorem takeOnly (held : Held holdsIt threads fun _ => lock) (free : lock = none)
    (takes : holdsIt state ()) :
    Held holdsIt (update threads thread state) fun _ => some thread := by
  have only : update (fun _ => lock) () (some thread) = fun _ => some thread := by
    funext
    simp
  exact only ▸ held.take () free (by simp [takes])

theorem releaseOnly (held : Held holdsIt threads fun _ => lock)
    (holding : holdsIt (threads thread) ()) (gives : ¬ holdsIt state ()) :
    Held holdsIt (update threads thread state) fun _ => none := by
  have only : update (fun _ => lock) () none = fun _ => none := by
    funext
    simp
  exact only ▸ held.release () holding (by simp [gives])

end

end Held

end AbilityRuntime.Library
