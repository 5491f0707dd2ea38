import EnvoySidecar.Log.Notice

/-! Computations that may fail and that leave notices either way. -/

namespace EnvoySidecar

structure Run (α : Type) where
  notices : List Log.Notice
  result : Except Failure α

namespace Run

variable {α β : Type}

def ok (a : α) : Run α :=
  ⟨[], .ok a⟩

def fail (f : Failure) : Run α :=
  ⟨[], .error f⟩

def note (n : Log.Notice) : Run Unit :=
  ⟨[n], .ok ()⟩

def ofExcept (r : Except Failure α) : Run α :=
  ⟨[], r⟩

def bind (x : Run α) (f : α → Run β) : Run β :=
  match x.result with
  | .ok a => ⟨x.notices ++ (f a).notices, (f a).result⟩
  | .error e => ⟨x.notices, .error e⟩

instance : Monad Run where
  pure := ok
  bind := bind

def failNoting (n : Log.Notice) (f : Failure) : Run α :=
  ⟨[n], .error f⟩

@[simp] theorem bind_ok (a : α) (f : α → Run β) : bind (ok a) f = f a := by
  simp [bind, ok]

theorem bind_of_error {x : Run α} {e : Failure} (h : x.result = .error e) (f : α → Run β) :
    bind x f = ⟨x.notices, .error e⟩ := by
  simp [bind, h]

theorem bind_of_ok {x : Run α} {a : α} (h : x.result = .ok a) (f : α → Run β) :
    bind x f = ⟨x.notices ++ (f a).notices, (f a).result⟩ := by
  simp [bind, h]

end Run

end EnvoySidecar
