import Perimeter.Proofs.Runs
import Perimeter.Web.Serve

/-!
# Requests

Whatever a request is, serving it makes one of the offered calls or none at all
(`offers_serve`), so that what holds wherever runs of offered calls lead holds between requests.
-/

namespace Perimeter.System

theorem answering_snd {α : Type} (status : Nat) (item : α → Json) (o : Outcome α) :
    (Web.Call.answering status item o).2 = o.2 := rfl

/-- Nothing happened, or one of the calls that the services offer. -/
def Offers (s s' : System) : Prop := s' = s ∨ ∃ c : Call, c.isOffered = true ∧ s' = c.run s

theorem offers_perform (s : System) (request : Web.Call) : s.Offers (request.perform s).2 := by
  cases request with
  | createFolder d => exact Or.inr ⟨.createFolder d, rfl, answering_snd _ _ _⟩
  | changeFolder id d => exact Or.inr ⟨.changeFolder id d, rfl, answering_snd _ _ _⟩
  | discardFolder id => exact Or.inr ⟨.discardFolder id, rfl, answering_snd _ _ _⟩
  | createUser d => exact Or.inr ⟨.createUser d, rfl, answering_snd _ _ _⟩
  | changeUser id d =>
    unfold Web.Call.perform
    dsimp only
    cases d.isActive with
    | none => exact Or.inl rfl
    | some active => exact Or.inr ⟨.setUserActive id active, rfl, answering_snd _ _ _⟩
  | createRole d => exact Or.inr ⟨.createRole d, rfl, answering_snd _ _ _⟩
  | createGroup d => exact Or.inr ⟨.createGroup d, rfl, answering_snd _ _ _⟩
  | addMember group user => exact Or.inr ⟨.addMember user group, rfl, answering_snd _ _ _⟩
  | removeMember group user => exact Or.inr ⟨.removeMember user group, rfl, answering_snd _ _ _⟩
  | assign d => exact Or.inr ⟨.assignRole d, rfl, answering_snd _ _ _⟩
  | revoke id => exact Or.inr ⟨.revokeAssignment id, rfl, answering_snd _ _ _⟩
  | _ => exact Or.inl rfl

theorem offers_carryOut (s : System) (reading : Web.Reading Web.Call) :
    s.Offers (Web.carryOut s reading).2 := by
  cases reading with
  | error refusal => exact Or.inl rfl
  | ok request =>
    have offers := offers_perform s request
    unfold Web.carryOut
    dsimp only
    split
    · next outcome =>
      rw [outcome] at offers
      exact offers
    · next outcome =>
      rw [outcome] at offers
      exact offers

theorem offers_dispatch (s : System) (route : Option Web.Route) (most : Nat) (r : Web.Request) :
    s.Offers (Web.dispatch s route most r).2 := by
  unfold Web.dispatch
  split
  · exact Or.inl rfl
  · split
    · exact Or.inl rfl
    · exact offers_carryOut s _

/-- A request, whatever it is, makes an offered call or none. -/
theorem offers_serve (t : ServerTerms) (s : System) (r : Web.Request) :
    s.Offers (Web.serve t s r).2 := by
  unfold Web.serve
  dsimp only
  split
  · exact Or.inl rfl
  · split
    · exact Or.inl rfl
    · exact offers_dispatch s _ _ _

end Perimeter.System
