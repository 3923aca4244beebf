/-!
Chains of checks. A fallible function stops at its first error, so it succeeds exactly
when each of its checks does; the lemmas here take such a chain apart.
-/
namespace Cap.Checks

variable {ε α β : Type}

/-- Go on when the condition holds, stop with the error otherwise. -/
def require (condition : Bool) (error : ε) : Except ε Unit :=
  if condition then .ok () else .error error

@[simp] theorem require_eq_ok {condition : Bool} {error : ε} {u : Unit} :
    require condition error = .ok u ↔ condition = true := by
  cases condition <;> simp [require]

@[simp] theorem require_true (error : ε) : require true error = .ok () := rfl

theorem require_bind_eq_error {condition : Bool} {error failure : ε} {f : Unit → Except ε α}
    (failed : (require condition error >>= f) = .error failure) : failure = error ∨ f () = .error failure := by
  cases condition with
  | false => exact .inl (Except.error.inj failed).symm
  | true => exact .inr failed

@[simp] theorem bind_eq_ok {x : Except ε α} {f : α → Except ε β} {b : β} :
    (x >>= f) = .ok b ↔ ∃ a, x = .ok a ∧ f a = .ok b := by
  cases x with
  | error e => simp [bind,Except.bind]
  | ok a => simp [bind,Except.bind]

theorem check_bind_eq_ok {x : Except ε Unit} {f : Unit → Except ε β} {b : β} :
    (x >>= f) = .ok b ↔ x = .ok () ∧ f () = .ok b := by
  cases x with
  | error e => simp
  | ok u => simp [bind,Except.bind]

theorem bind_congr_ok {x : Except ε α} {f g : α → Except ε β} (same : ∀ a, x = .ok a → f a = g a) :
    x >>= f = x >>= g := by
  cases x with
  | error failure => rfl
  | ok a => exact same a rfl

@[simp] theorem pure_eq_ok {a b : α} : (pure a : Except ε α) = .ok b ↔ a = b := by
  simp [pure,Except.pure]

@[simp] theorem map_eq_ok {x : Except ε α} {f : α → β} {b : β} : f <$> x = .ok b ↔ ∃ a, x = .ok a ∧ f a = b := by
  cases x with
  | error e => simp [Functor.map,Except.map]
  | ok a => simp [Functor.map,Except.map]

@[simp] theorem throw_eq_ok {error : ε} {b : α} : (throw error : Except ε α) = .ok b ↔ False := by
  simp

@[simp] theorem toOption_eq_some {x : Except ε α} {a : α} : x.toOption = some a ↔ x = .ok a := by
  cases x with
  | error e => simp [Except.toOption]
  | ok b => simp [Except.toOption]

def first : List ε → Except ε Unit
  | [] => .ok ()
  | error :: _ => .error error

theorem first_append (errors more : List ε) : first (errors ++ more) = first errors >>= fun _ => first more := by
  cases errors with
  | nil => rfl
  | cons error rest => rfl

end Cap.Checks
