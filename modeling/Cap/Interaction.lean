/-!
Programs that deal with an adversary. A program asks for answers that may depend on all that has
happened before; its events stay done whether it returns or fails. `Ensures` has a rule for each
way to build a program, and a chain of steps is taken apart from its front.
-/
namespace Cap.Interaction

variable {ε E α β : Type}

/-- The outcome of the program and the events that it adds to a history. -/
def Program (ε E α : Type) : Type := List E → Except ε α × List E

namespace Program

protected def pure (a : α) : Program ε E α := fun _ => (.ok a,[])

def fail (failure : ε) : Program ε E α := fun _ => (.error failure,[])

/-- The second program starts where the first has left the history. -/
protected def bind (p : Program ε E α) (f : α → Program ε E β) : Program ε E β := fun history =>
  match p history with
  | (.ok a,events) => ((f a (history ++ events)).1,events ++ (f a (history ++ events)).2)
  | (.error failure,events) => (.error failure,events)

instance : Monad (Program ε E) where
  pure := Program.pure
  bind := Program.bind

/-- One question to the adversary; the event may show its answer. -/
def call (answer : List E → α) (event : α → E) : Program ε E α := fun history =>
  (.ok (answer history),[event (answer history)])

/-- The program with its failure as a value. -/
def attempt (p : Program ε E α) : Program ε E (Except ε α) := fun history => (.ok (p history).1,(p history).2)

def of : Except ε α → Program ε E α
  | .ok a => Program.pure a
  | .error failure => Program.fail failure

theorem bind_congr {p : Program ε E α} {f g : α → Program ε E β} {history : List E}
    (alike : ∀ a events, p history = (.ok a,events) → f a (history ++ events) = g a (history ++ events)) :
    (p >>= f) history = (p >>= g) history := by
  show Program.bind p f history = Program.bind p g history
  unfold Program.bind
  cases ran : p history with
  | mk outcome events =>
    cases outcome with
    | ok a => simp only [alike a events ran]
    | error failure => rfl

theorem of_eq_ok {outcome : Except ε α} {history events : List E} {a : α}
    (ran : (of outcome : Program ε E α) history = (.ok a,events)) : outcome = .ok a ∧ events = [] := by
  cases outcome with
  | ok b =>
    cases ran
    exact ⟨rfl,rfl⟩
  | error failure => cases ran

theorem of_ok_bind (a : α) (f : α → Program ε E β) : (of (.ok a) : Program ε E α) >>= f = f a := by
  funext history
  show Program.bind (Program.pure a) f history = f a history
  simp [Program.bind,Program.pure]

end Program

/-- From the history, the program ends with such an outcome after such events. -/
def Ensures (p : Program ε E α) (history : List E) (post : Except ε α → List E → Prop) : Prop :=
  post (p history).1 (p history).2

namespace Ensures

variable {p : Program ε E α} {history : List E} {post weaker : Except ε α → List E → Prop}

theorem mono (ensures : Ensures p history post) (weaken : ∀ outcome events, post outcome events → weaker outcome events) :
    Ensures p history weaker :=
  weaken _ _ ensures

theorem pure {a : α} (holds : post (.ok a) []) : Ensures (pure a : Program ε E α) history post := holds

theorem fail {failure : ε} (holds : post (.error failure) []) : Ensures (Program.fail failure) history post := holds

theorem call {answer : List E → α} {event : α → E} (holds : post (.ok (answer history)) [event (answer history)]) :
    Ensures (Program.call answer event) history post :=
  holds

theorem of {outcome : Except ε α} (holds : post outcome []) : Ensures (Program.of outcome) history post := by
  cases outcome with
  | ok a | error failure => exact holds

theorem attempt {post : Except ε (Except ε α) → List E → Prop}
    (ensures : Ensures p history fun outcome events => post (.ok outcome) events) :
    Ensures p.attempt history post :=
  ensures

variable {post : Except ε β → List E → Prop} {f : α → Program ε E β}

/-- What the second program ensures is about its own events, those of the first come before. -/
theorem bind
    (ensures : Ensures p history fun outcome events =>
      match outcome with
      | .ok a => Ensures (f a) (history ++ events) fun later more => post later (events ++ more)
      | .error failure => post (.error failure) events) : Ensures (p >>= f) history post := by
  show post (Program.bind p f history).1 (Program.bind p f history).2
  unfold Ensures at ensures
  unfold Program.bind
  cases ran : p history with
  | mk outcome events =>
    rw [ran] at ensures
    cases outcome with
    | ok a | error failure => exact ensures

theorem call_bind {answer : List E → α} {event : α → E}
    (ensures : Ensures (f (answer history)) (history ++ [event (answer history)]) fun outcome events =>
      post outcome (event (answer history) :: events)) : Ensures (Program.call answer event >>= f) history post :=
  bind ensures

theorem of_bind {outcome : Except ε α}
    (ok : ∀ a, outcome = .ok a → Ensures (f a) history post)
    (failed : ∀ failure, outcome = .error failure → post (.error failure) []) :
    Ensures (Program.of outcome >>= f) history post := by
  refine bind (of ?_)
  cases outcome with
  | ok a =>
    rw [List.append_nil]
    exact ok a rfl
  | error failure => exact failed failure rfl

end Ensures

end Cap.Interaction
