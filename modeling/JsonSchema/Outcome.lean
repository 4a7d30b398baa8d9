import JsonSchema.Fault
import JsonSchema.Notice

/-!
Answers with what was reported on the way to them.

An outcome holds its notices also when it ends in a fault. `result` follows the answer alone and
`notices` what is reported, and both are described by one lemma per operation.
-/

namespace JsonSchema

structure Outcome (α : Type) where
  notices : List Notice
  result : Except Fault α

namespace Outcome

variable {α β : Type}

def ok (a : α) : Outcome α := ⟨[], .ok a⟩

def fail (f : Fault) : Outcome α := ⟨[], .error f⟩

def ofExcept (e : Except Fault α) : Outcome α := ⟨[], e⟩

def notify (n : Notice) : Outcome Unit := ⟨[n], .ok ()⟩

def andThen (x : Outcome α) (f : α → Outcome β) : Outcome β :=
  match x.result with
  | .ok a => ⟨x.notices ++ (f a).notices, (f a).result⟩
  | .error e => ⟨x.notices, .error e⟩

instance : Monad Outcome where
  pure := ok
  bind := andThen

instance : MonadLift (Except Fault) Outcome where
  monadLift := ofExcept

instance : MonadExceptOf Fault Outcome where
  throw := fail
  tryCatch x handle :=
    match x.result with
    | .ok _ => x
    | .error e => ⟨x.notices ++ (handle e).notices, (handle e).result⟩

@[simp] theorem result_pure (a : α) : (pure a : Outcome α).result = .ok a := rfl

@[simp] theorem notices_pure (a : α) : (pure a : Outcome α).notices = [] := rfl

@[simp] theorem result_throw (f : Fault) : (throw f : Outcome α).result = .error f := rfl

@[simp] theorem result_ofExcept (e : Except Fault α) : (ofExcept e).result = e := rfl

@[simp] theorem result_liftM (e : Except Fault α) : (liftM e : Outcome α).result = e := rfl

theorem result_bind (x : Outcome α) (f : α → Outcome β) :
    (x >>= f).result = x.result >>= fun a => (f a).result := by
  show (andThen x f).result = _
  unfold andThen
  cases x.result <;> rfl

end Outcome

end JsonSchema
