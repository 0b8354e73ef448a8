import Provisioner.ApiServer.Client
import Provisioner.Cluster.Write
import Provisioner.Proofs.Program.Interpret
/-!
# Work over a network

Carrying out work over a network goes part by part: what is put together from calls is put together
from the programs that carry them out.
-/

namespace Provisioner.ApiServer

open Program

lemma forResources_eq_inTurn (action : Resource → Program Network Error Unit)
    (resources : List Resource) :
    forResources action resources = inTurn (resources.map action) := by
  induction resources with
  | nil => rfl
  | cons r rest ih => rw [List.map_cons, inTurn_cons, ← ih]; rfl

lemma onNetwork_bind {α β : Type} (p : Work α) (f : α → Work β) :
    onNetwork (p.bind f) = (onNetwork p).bind fun value => onNetwork (f value) :=
  interpret_bind (I := Platform) answer p f

lemma onNetwork_mapError {α : Type} (p : Work α) (f : Error → Error) :
    onNetwork (p.mapError f) = (onNetwork p).mapError f :=
  interpret_mapError (I := Platform) answer p f

lemma onNetwork_ofExcept {α : Type} (value : Except Error α) :
    onNetwork (Program.ofExcept value) = Program.ofExcept value :=
  interpret_ofExcept (I := Platform) answer value

/-- Over a network, a call is what carries it out. -/
lemma onNetwork_perform (call : Call) : onNetwork call.perform = carryOut call := by
  have hreply : (fun reply => onNetwork (Program.ofExcept reply : Work call.Answer)) =
      Program.ofExcept := funext onNetwork_ofExcept
  unfold onNetwork at hreply ⊢
  unfold Call.perform
  -- The answer is the end of the attempt, and ends the call in turn.
  rw [interpret, hreply]
  exact attempt_bind_ofExcept (carryOut call)

/-- Over a network, the call is what is attempted. -/
lemma onNetwork_applyManifestWithRetry (retry : Retry) (manifest : Text.Utf8.Bytes) :
    onNetwork (Cluster.applyManifestWithRetry retry manifest) =
      retry.run (carryOut (.applyManifest manifest)) := by
  have hretry : onNetwork (retry.run (Call.applyManifest manifest).perform) =
      retry.run (onNetwork (Call.applyManifest manifest).perform) :=
    interpret_retry (I := Platform) answer retry _
  rw [Cluster.applyManifestWithRetry, hretry, onNetwork_perform]

end Provisioner.ApiServer
