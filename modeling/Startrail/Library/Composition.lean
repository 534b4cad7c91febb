import Startrail.Library.Reentrancy

/-!
Contracts side by side. Each is a part of one state: its code runs on that part
and leaves the rest alone, also where it hands control to others, who may by then
have changed every part.
-/

namespace Startrail

structure Part (T S : Type) where
  get : T → S
  put : S → T → T
  get_put : ∀ part whole, get (put part whole) = part
  put_get : ∀ whole, put (get whole) whole = whole

namespace Outcome

variable {E S T Q Q' R : Type}

/-- The code of one part as code of the whole. -/
def within (part : Part T S) (ask : Q → Q') : T → Outcome E S Q R S → Outcome E T Q' R T
  | _, .revert reason => .revert reason
  | whole, .done state => .done (part.put state whole)
  | whole, .call state query resume =>
      .call (part.put state whole) (ask query) fun later reply =>
        within part ask later (resume (part.get later) reply)

variable {part : Part T S} {ask : Q → Q'}

theorem front_within (whole : T) (code : Outcome E S Q R S) :
    (code.within part ask whole).front = code.front.map fun state => part.put state whole := by
  cases code <;> rfl

theorem Trailing.within {code : Outcome E S Q R S} (trailing : code.Trailing) (whole : T) :
    (code.within part ask whole).Trailing := by
  cases code with
  | revert reason => trivial
  | done state => trivial
  | call state query resume =>
      intro later reply
      rcases trailing (part.get later) reply with finished | ⟨reason, reverted⟩
      · refine Or.inl ?_
        dsimp only
        rw [finished]
        exact congrArg Outcome.done (part.put_get later)
      · refine Or.inr ⟨reason, ?_⟩
        dsimp only
        rw [reverted]
        rfl

end Outcome

end Startrail
