import Provisioner.Monitoring.ApiKey
import Provisioner.Proofs.Except
import Provisioner.Proofs.Text.Base64
/-!
# The answer that holds a key

Which answers of the monitoring server hold a key: those of success whose text is the JSON of one
field, a string.  Every other answer, and every failure to get one, is an error of its own kind.
What a request says of its sender can always be sent.
-/

namespace Provisioner.Monitoring

open Json (Members Fields Decoder)

/-- The JSON of a key: an object with one field of its name, or the array of its one field. -/
inductive IsKeyDocument (key : String) : Json → Prop
  | object {members : Members}
      (once : members.filter (fun m => m.1 == "key") = [("key", .string key)]) :
      IsKeyDocument key (.object members)
  | array : IsKeyDocument key (.array [.string key])

/-- The answer is one of success and holds a key. -/
inductive HoldsKey (key : String) : Except Http.Unreachable Http.Response → Prop
  | intro {response : Http.Response} {document : Json}
      (success : 200 ≤ response.status ∧ response.status < 300)
      (json : Json.read response.body.toList = .ok document)
      (holds : IsKeyDocument key document) : HoldsKey key (.ok response)

/-! ## Reading the document of a key -/

variable {key target : String}

/-- The fields of an object that count are those of the name. -/
lemma closed_key (members : Members) :
    Fields.closed ["key"] (.object members) =
      match Fields.repeated? ((members.filter fun m => m.1 == "key").map Prod.fst) with
      | some name => .error (.duplicate name)
      | none => .ok ⟨members.filter fun m => m.1 == "key"⟩ := by
  have hnames : (fun m : String × Json => ["key"].contains m.1) = fun m => m.1 == "key" := by
    funext m
    simp [beq_eq_decide]
  unfold Fields.closed
  exact hnames ▸ rfl

/-- One field is read as a string, and there must be exactly one. -/
lemma decodeKey_object (members : Members) :
    decodeKey (.object members) =
      match members.filter fun m => m.1 == "key" with
      | [] => .error (.missing "key")
      | [m] => Decoder.string m.2
      | _ => .error (.duplicate "key") := by
  have hname : ∀ m ∈ members.filter fun m => m.1 == "key", m.1 = "key" := by
    intro m hm
    simpa using (List.mem_filter.mp hm).2
  unfold decodeKey
  rw [closed_key]
  generalize members.filter (fun m => m.1 == "key") = known at hname ⊢
  rcases known with _ | ⟨⟨name, value⟩, _ | ⟨⟨name', value'⟩, rest⟩⟩
  · rfl
  · obtain rfl : name = "key" := hname (name, value) List.mem_cons_self
    cases value <;> rfl
  · obtain rfl : name = "key" := hname (name, value) List.mem_cons_self
    obtain rfl : name' = "key" :=
      hname (name', value') (List.mem_cons_of_mem _ List.mem_cons_self)
    rfl

lemma decodeKey_array (items : List Json) :
    decodeKey (.array items) =
      match items with
      | [] => .error (.missing "key")
      | [value] => Decoder.string value
      | _ => .error (.expected "no more items than fields") := by
  rcases items with _ | ⟨value, _ | ⟨value', rest⟩⟩
  · rfl
  · cases value <;> rfl
  · rfl

lemma string_eq_ok_iff {value : Json} : Decoder.string value = .ok key ↔ value = .string key := by
  cases value <;> simp [Decoder.string]

lemma decodeKey_eq_ok_iff {document : Json} :
    decodeKey document = .ok key ↔ IsKeyDocument key document := by
  constructor
  · intro hkey
    cases document with
    | object members =>
      rw [decodeKey_object] at hkey
      split at hkey
      · cases hkey
      · rename_i m hfilter
        have hname : m.1 = "key" := by
          have hm : m ∈ members.filter fun m => m.1 == "key" := hfilter ▸ List.mem_cons_self
          simpa using (List.mem_filter.mp hm).2
        have hvalue := string_eq_ok_iff.mp hkey
        exact .object (by rw [hfilter, ← hname, ← hvalue])
      · cases hkey
    | array items =>
      rw [decodeKey_array] at hkey
      split at hkey
      · cases hkey
      · rw [string_eq_ok_iff.mp hkey]
        exact .array
      · cases hkey
    | _ => cases hkey
  · intro hkey
    cases hkey with
    | object once =>
      rw [decodeKey_object, once]
      rfl
    | array => rfl

/-! ## Reading an answer -/

variable {reply : Except Http.Unreachable Http.Response}

lemma readKey_eq_ok_iff {text : String} :
    readKey text = .ok key ↔
      ∃ document, Json.read text.toList = .ok document ∧ IsKeyDocument key document := by
  unfold readKey
  cases hread : Json.read text.toList with
  | error e => simp
  | ok document =>
    simp only [Except.ok.injEq, exists_eq_left', ← decodeKey_eq_ok_iff]
    exact mapError_eq_ok_iff

lemma isSuccess_iff {status : Nat} : Http.isSuccess status = true ↔ 200 ≤ status ∧ status < 300 := by
  simp [Http.isSuccess]

/-- A key is read from exactly the answers that hold it. -/
lemma keyOf_eq_ok_iff : keyOf target reply = .ok key ↔ HoldsKey key reply := by
  cases reply with
  | error unreachable =>
    constructor
    · exact fun hkey => by cases hkey
    · exact fun hkey => by cases hkey
  | ok response =>
    unfold keyOf
    dsimp only
    split
    · rename_i hsuccess
      rw [readKey_eq_ok_iff]
      constructor
      · rintro ⟨document, hread, hkey⟩
        exact .intro (isSuccess_iff.mp hsuccess) hread hkey
      · rintro ⟨-, hread, hkey⟩
        exact ⟨_, hread, hkey⟩
    · rename_i hfailure
      constructor
      · exact fun hkey => by cases hkey
      · rintro ⟨hsuccess, -, -⟩
        exact absurd (isSuccess_iff.mpr hsuccess) hfailure

lemma readKey_eq_error {text : String} {e : Error} (he : readKey text = .error e) :
    ∃ message, e = .http message := by
  unfold readKey at he
  split at he
  · cases he
    exact ⟨_, rfl⟩
  · rename_i document hread
    cases hkey : decodeKey document with
    | error cause =>
      rw [hkey] at he
      cases he
      exact ⟨_, rfl⟩
    | ok key =>
      rw [hkey] at he
      cases he

/-- What goes wrong with an answer is an error of the monitoring server. -/
lemma keyOf_eq_error {e : Error} (he : keyOf target reply = .error e) :
    ∃ message, e = .http message := by
  cases reply with
  | error unreachable =>
    cases he
    exact ⟨_, rfl⟩
  | ok response =>
    unfold keyOf at he
    dsimp only at he
    split at he
    · exact readKey_eq_error he
    · cases he
      exact ⟨_, rfl⟩

/-! ## Sending the request -/

/-- The digits of base64 can stand in the head of a request. -/
lemma isHeadText_basic (bytes : Text.Utf8.Bytes) :
    isHeadText ("Basic " ++ Text.Base64.encodeString bytes) = true := by
  have hstart : isHeadText "Basic " = true := by decide +kernel
  have hdigits : isHeadText (String.ofList ('=' :: Text.Base64.alphabet)) = true := by
    decide +kernel
  unfold isHeadText at hstart hdigits ⊢
  rw [String.toList_ofList, List.all_eq_true] at hdigits
  rw [String.toList_append, List.all_append, hstart, Bool.true_and, List.all_eq_true]
  intro c hc
  rw [Text.Base64.encodeString, String.toList_ofList] at hc
  exact hdigits c (Text.Base64.mem_encode hc)

/-- Whether a request for a key can be sent depends on the address of the server alone. -/
lemma isSendable_keyRequest (server : Server) (name : String) :
    isSendable (server.keyRequest name none) = Http.Address.isUsable server.keysAddress := by
  unfold isSendable Server.keyRequest Server.authorization
  dsimp only
  rw [Option.map_some, isHeadText_basic]
  simp

end Provisioner.Monitoring
