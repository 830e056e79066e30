/-
NodeBootstrap/Proofs/Session/Inquiry.lean

Runs that only ask.  Such a run leaves the tree alone, and what it looks up,
what it requests and how it ends do not depend on the session it starts from
(`Run.Asks`).  Look-ups and requests of runs in a row come one behind the
other (`Asks.bind`), and none come behind a fault (`Asks.bind_error`).
-/
import NodeBootstrap.Proofs.Session.Action

namespace NodeBootstrap

/-- A session after another one in which these names were looked up and these
requests made, and nothing else happened but for entries in the journal. -/
structure Session.After (x : Session) (hosts : List String) (requests : List Request)
    (y : Session) : Prop where
  tree : y.tree = x.tree
  lookups : y.lookups = x.lookups ++ hosts
  requests : y.requests = x.requests ++ requests

namespace Session.After

variable {x y z : Session} {hosts hosts' : List String} {requests requests' : List Request}

theorem refl (x : Session) : x.After [] [] x :=
  ⟨rfl, (List.append_nil _).symm, (List.append_nil _).symm⟩

theorem trans (h : x.After hosts requests y) (k : y.After hosts' requests' z) :
    x.After (hosts ++ hosts') (requests ++ requests') z :=
  ⟨k.tree.trans h.tree, by rw [k.lookups, h.lookups, List.append_assoc],
    by rw [k.requests, h.requests, List.append_assoc]⟩

end Session.After

namespace Run

variable {α β : Type}

/-- A run that looks these names up, makes these requests and ends like this,
whatever the session. -/
def Asks (r : Run α) (hosts : List String) (requests : List Request) (result : Except Fault α) :
    Prop :=
  ∀ x : Session, ∃ y, r.perform x = (result, y) ∧ x.After hosts requests y

namespace Asks

variable {r : Run α} {f : α → Run β} {a : α} {fault : Fault} {result : Except Fault β}
variable {hosts hosts' : List String} {requests requests' : List Request}

theorem pure (a : α) : Asks (Pure.pure a : Run α) [] [] (.ok a) :=
  fun x => ⟨x, rfl, .refl x⟩

theorem ofExcept (result : Except Fault α) : Asks (Run.ofExcept result) [] [] result :=
  fun x => ⟨x, perform_ofExcept result x, .refl x⟩

theorem note (level : Journal.Level) (words : String) :
    Asks (Run.note level words) [] [] (.ok ()) :=
  fun _ => ⟨_, rfl, ⟨rfl, (List.append_nil _).symm, (List.append_nil _).symm⟩⟩

theorem noteLookup (host : String) : Asks (Run.noteLookup host) [host] [] (.ok ()) :=
  fun _ => ⟨_, rfl, ⟨rfl, rfl, (List.append_nil _).symm⟩⟩

theorem noteRequest (request : Request) : Asks (Run.noteRequest request) [] [request] (.ok ()) :=
  fun _ => ⟨_, rfl, ⟨rfl, (List.append_nil _).symm, rfl⟩⟩

theorem bind (hr : Asks r hosts requests (.ok a)) (hf : Asks (f a) hosts' requests' result) :
    Asks (r >>= f) (hosts ++ hosts') (requests ++ requests') result := by
  intro x
  obtain ⟨y, hy, hxy⟩ := hr x
  obtain ⟨z, hz, hyz⟩ := hf y
  refine ⟨z, ?_, hxy.trans hyz⟩
  rw [perform_bind, hy]
  exact hz

/-- A run with one behind it that asks for nothing. -/
theorem bind_quiet (hr : Asks r hosts requests (.ok a)) (hf : Asks (f a) [] [] result) :
    Asks (r >>= f) hosts requests result := by
  have h := hr.bind hf
  rw [List.append_nil, List.append_nil] at h
  exact h

theorem bind_error (hr : Asks r hosts requests (.error fault)) (f : α → Run β) :
    Asks (r >>= f) hosts requests (.error fault) := by
  intro x
  obtain ⟨y, hy, hxy⟩ := hr x
  refine ⟨y, ?_, hxy⟩
  rw [perform_bind, hy]

/-- Such a run has one ending. -/
theorem unique {ending other : Except Fault α} (h : Asks r hosts requests ending)
    (k : Asks r hosts' requests' other) : ending = other := by
  obtain ⟨y, hy, -⟩ := h (Session.start ⟨[], []⟩)
  obtain ⟨z, hz, -⟩ := k (Session.start ⟨[], []⟩)
  exact congrArg Prod.fst (hy.symm.trans hz)

end Asks

end Run

end NodeBootstrap
