import Watch.Wire.Message
import Watch.Proofs.Wire.Frame
import Watch.Proofs.Wire.Instruction

/-!
# Requests in their envelopes

What stands beside the version and the id in an envelope is set aside before it is read. A request
gets through this as it is, with one exception: a frame with a heap is refused.
-/

namespace Watch

namespace Json

theorem Tidy.canSetAside {json : Json} {depth around : Nat} (tidy : json.Tidy depth)
    (shallow : depth + around ≤ deepest) : json.canSetAside around = true := by
  have nesting : json.nesting + around ≤ deepest :=
    Nat.le_trans (Nat.add_le_add_right tidy.nesting around) shallow
  simp [Json.canSetAside, tidy.sound, nesting]

end Json

/-! ## Envelopes -/

namespace Envelope

variable {Content : Type} {members : Content → List (String × Json)}

/-- The members that an envelope has of its own. -/
def ownMembers (version : String) (id : Option UInt64) : List (String × Json) :=
  [("jsonrpc", .ofText version), ("id", .ofOption (fun id => .ofInt (UInt64.toNat id)) id)]

theorem required_version (version : String) (id : Option UInt64) :
    Record.required (ownMembers version id) "jsonrpc" Json.text? = some version := by
  simp [ownMembers]

theorem optional_id (version : String) (id : Option UInt64) :
    Record.optional (ownMembers version id) "id" none (Json.nullable? Json.word64?) = some id := by
  have found : (Json.ofOption (fun id => .ofInt (UInt64.toNat id)) id).nullable? Json.word64? =
      some id :=
    Json.nullable?_ofOption (by simp [Json.ofInt]) (by simp)
  simpa [ownMembers] using found

/-- Members that may stand in an envelope: no key is repeated, and none is one of its own. -/
structure FitIn (content : List (String × Json)) : Prop where
  distinct : (content.map Prod.fst).Nodup
  noVersion : "jsonrpc" ∉ content.map Prod.fst
  noId : "id" ∉ content.map Prod.fst

namespace FitIn

variable {content : List (String × Json)}

theorem key_ne (fit : FitIn content) {member : String × Json} (listed : member ∈ content) :
    member.1 ≠ "jsonrpc" ∧ member.1 ≠ "id" := by
  constructor
  · intro same
    exact fit.noVersion (same ▸ List.mem_map_of_mem listed)
  · intro same
    exact fit.noId (same ▸ List.mem_map_of_mem listed)

theorem fields? (fit : FitIn content) (version : String) (id : Option UInt64) :
    (Json.ofMembers (ownMembers version id ++ content)).fields? ["jsonrpc", "id"] =
      some (ownMembers version id) := by
  have distinct : ((ownMembers version id ++ content).map Prod.fst).Nodup := by
    have first : "jsonrpc" ∉ "id" :: content.map Prod.fst := by
      simpa using fit.noVersion
    exact List.nodup_cons.2 ⟨first, List.nodup_cons.2 ⟨fit.noId, fit.distinct⟩⟩
  have others : content.filter (fun member => ["jsonrpc", "id"].contains member.1) = [] := by
    apply List.filter_eq_nil_iff.2
    intro member listed
    simp [fit.key_ne listed]
  rw [Json.fields?_ofMembers distinct, List.filter_append, others]
  simp [ownMembers]

theorem filter_members (fit : FitIn content) (version : String) (id : Option UInt64) :
    (ownMembers version id ++ content).filter
      (fun member => member.1 != "jsonrpc" && member.1 != "id") = content := by
  have others : content.filter
      (fun member => member.1 != "jsonrpc" && member.1 != "id") = content := by
    apply List.filter_eq_self.2
    intro member listed
    simp [fit.key_ne listed]
  rw [List.filter_append, others]
  simp [ownMembers]

end FitIn

/-- A message in an envelope is what its members are read as, if they may be set aside. -/
theorem ofJson?_toJson_eq {envelope : Envelope Content}
    {read : List (String × Json) → Option Content} (fit : FitIn (members envelope.content)) :
    ofJson? read (envelope.toJson members) =
      if (members envelope.content).all fun member => member.2.canSetAside 1 then
        (read (members envelope.content)).map fun content => { envelope with content := content }
      else none := by
  rcases envelope with ⟨version, id, content⟩
  have written : toJson members ⟨version, id, content⟩ =
      .ofMembers (ownMembers version id ++ members content) := rfl
  rw [written, ofJson?]
  simp only [fit.fields?, required_version, optional_id, Json.members?_ofMembers,
    fit.filter_members, Option.bind_eq_bind, Option.bind_some]
  cases read (members content) <;> rfl

theorem ofJson?_toJson {envelope : Envelope Content} {depth : Nat}
    {read : List (String × Json) → Option Content} (fit : FitIn (members envelope.content))
    (tidy : ∀ member ∈ members envelope.content, member.2.Tidy depth)
    (shallow : depth + 1 ≤ Json.deepest) :
    ofJson? read (envelope.toJson members) =
      (read (members envelope.content)).map fun content =>
        { envelope with content := content } := by
  have aside : (members envelope.content).all (fun member => member.2.canSetAside 1) = true := by
    apply List.all_eq_true.2
    intro member listed
    exact (tidy member listed).canSetAside shallow
  rw [ofJson?_toJson_eq fit, if_pos aside]

theorem normal_toJson {envelope : Envelope Content}
    (same : ∀ member ∈ members envelope.content, member.2.normal = member.2) :
    (envelope.toJson members).normal = envelope.toJson members := by
  rcases envelope with ⟨version, id, content⟩
  have idSame : (Json.ofOption (fun id => .ofInt (UInt64.toNat id)) id).normal =
      Json.ofOption (fun id => .ofInt (UInt64.toNat id)) id :=
    Json.normal_ofOption fun id => Json.normal_ofInt id.toNat
  apply Json.normal_ofMembers
  intro member listed
  rcases List.mem_append.1 listed with own | other
  · rcases List.mem_cons.1 own with rfl | last
    · exact Json.normal_ofText version
    · rcases List.mem_singleton.1 last with rfl
      exact idSame
  · exact same member other

theorem tidy_toJson {envelope : Envelope Content} {depth : Nat}
    (tidy : ∀ member ∈ members envelope.content, member.2.Tidy depth) :
    (envelope.toJson members).Tidy (depth + 1) := by
  rcases envelope with ⟨version, id, content⟩
  have idTidy : (Json.ofOption (fun id => .ofInt (UInt64.toNat id)) id).Tidy depth :=
    .ofOption fun id _ => .ofWord id
  apply Json.Tidy.ofMembers
  intro member listed
  rcases List.mem_append.1 listed with own | other
  · rcases List.mem_cons.1 own with rfl | last
    · exact .ofText version
    · rcases List.mem_singleton.1 last with rfl
      exact idTidy
  · exact tidy member other

end Envelope

/-! ## Requests -/

namespace Request

/-- The values that a request carries. -/
def values : Request → List Value
  | .loadFrame _ content => content.values
  | .evaluate _ program => program.values
  | .cancel .. | .frame .. | .shutdown => []

/-- Whether a request carries a frame with objects or arrays. -/
def hasHeap : Request → Bool
  | .loadFrame _ content => content.hasHeap
  | .evaluate .. | .cancel .. | .frame .. | .shutdown => false

theorem named?_method (reading : Reading) (method : String) (known : method ∈ methods) :
    (Json.ofText method).named? reading methods id = some method :=
  Json.named?_ofText known fun _ _ same => same

theorem ofMethod?_some (reading : Reading) {method : String} (parameters : Json)
    (hasParameters : method ≠ "shutdown") :
    ofMethod? reading method (some parameters) = ofParameters? reading method parameters := by
  cases parameters <;> simp [ofMethod?, hasParameters]

/-- The name of the method of a request. -/
def method : Request → String
  | .loadFrame .. => "load_frame"
  | .evaluate .. => "evaluate"
  | .cancel _ => "cancel"
  | .frame _ => "frame"
  | .shutdown => "shutdown"

theorem required_method (reading : Reading) (request : Request) :
    Record.required request.members "method" (Json.named? reading methods id) =
      some request.method := by
  have known : request.method ∈ methods := by
    cases request <;> simp [method, methods]
  have found := named?_method reading request.method known
  cases request <;> simpa [members, method] using found

theorem fields?_members (request : Request) :
    (Json.ofMembers request.members).fields? ["method", "params"] = some request.members := by
  cases request <;> simp [members]

/-- The parameters of a request are those of its method, unless they carry a heap unread. -/
theorem ofMethod?_members (reading : Reading) {request : Request}
    (readsBack : ∀ value ∈ request.values, value.ReadsBack) :
    ofMethod? reading request.method (request.members.lookup "params") =
      if reading.numberedKeys || !request.hasHeap then some request else none := by
  cases request with
  | loadFrame session content =>
      have found : Frame.ofJson? reading content.toJson =
          if reading.numberedKeys || !content.hasHeap then some content else none :=
        Frame.ofJson?_toJson readsBack reading
      cases taken : reading.numberedKeys || !content.hasHeap <;>
        simp [members, method, ofMethod?_some, ofParameters?, List.lookup_cons, found, hasHeap,
          taken, -Bool.or_eq_true]
  | evaluate session program =>
      have found : Program.ofJson? reading program.toJson = some program :=
        Program.ofJson?_toJson reading readsBack
      simp [members, method, ofMethod?_some, ofParameters?, List.lookup_cons, found, hasHeap]
  | shutdown => simp [members, method, ofMethod?, hasHeap, List.lookup_cons]
  | _ => simp [members, method, ofMethod?_some, ofParameters?, List.lookup_cons, hasHeap]

/-- A request that was set aside is read again unless it carries a heap. -/
theorem ofMembers?_members {request : Request}
    (readsBack : ∀ value ∈ request.values, value.ReadsBack) :
    ofMembers? request.members = if request.hasHeap then none else some request := by
  have found := ofMethod?_members .buffered readsBack
  have method := required_method .buffered request
  simp only [ofMembers?, fields?_members, method, Option.bind_eq_bind, Option.bind_some, found]
  cases request.hasHeap <;> rfl

/-- A request that stands for itself is read again, its heap included. -/
theorem ofJson?_toJson {request : Request}
    (readsBack : ∀ value ∈ request.values, value.ReadsBack) :
    ofJson? request.toJson = some request := by
  have found := ofMethod?_members .direct readsBack
  have method := required_method .direct request
  have inOrder : comesFirst "method" "params" request.members = true := by
    cases request <;> simp [members, comesFirst]
  change ((Json.ofMembers request.members).fields? _).bind _ = _
  simp only [fields?_members, method, Option.bind_eq_bind, Option.bind_some, inOrder, if_true,
    found]
  rfl

/-- The members of a request take up at most seven levels of nesting. -/
theorem tidy_members {request : Request}
    (readsBack : ∀ value ∈ request.values, value.ReadsBack) :
    ∀ member ∈ request.members, member.2.Tidy 7 := by
  cases request with
  | loadFrame session content =>
      have carried : content.toJson.Tidy 6 := Frame.tidy_toJson readsBack
      have parameters : (Json.ofMembers [("session", .ofText session),
          ("frame", content.toJson)]).Tidy 7 := by
        apply Json.Tidy.ofMembers
        simp [Json.Tidy.ofText, carried]
      simp [members, Json.Tidy.ofText, parameters]
  | evaluate session program =>
      have carried : program.toJson.Tidy 6 := (Program.tidy_toJson readsBack).mono (by decide)
      have parameters : (Json.ofMembers [("session", .ofText session),
          ("program", program.toJson)]).Tidy 7 := by
        apply Json.Tidy.ofMembers
        simp [Json.Tidy.ofText, carried]
      simp [members, Json.Tidy.ofText, parameters]
  | cancel id =>
      have parameters : (Json.ofMembers [("id", .ofInt id.toNat)]).Tidy 7 := by
        apply Json.Tidy.ofMembers
        simp [Json.Tidy.ofWord]
      simp [members, Json.Tidy.ofText, parameters]
  | frame session =>
      have parameters : (Json.ofMembers [("session", .ofText session)]).Tidy 7 := by
        apply Json.Tidy.ofMembers
        simp [Json.Tidy.ofText]
      simp [members, Json.Tidy.ofText, parameters]
  | shutdown => simp [members, Json.Tidy.ofText]

theorem fitIn_members (request : Request) : Envelope.FitIn request.members := by
  cases request <;> constructor <;> simp [members]

end Request

namespace Envelope

/-- A request in its envelope is read again unless it carries a heap. -/
theorem ofRequestJson?_toJson {envelope : Envelope Request}
    (readsBack : ∀ value ∈ envelope.content.values, value.ReadsBack) :
    ofRequestJson? (envelope.toJson Request.members) =
      if envelope.content.hasHeap then none else some envelope := by
  have found : ofJson? Request.ofMembers? (envelope.toJson Request.members) =
      (Request.ofMembers? envelope.content.members).map fun content =>
        { envelope with content := content } :=
    ofJson?_toJson envelope.content.fitIn_members (Request.tidy_members readsBack) (by decide)
  rw [ofRequestJson?, found, Request.ofMembers?_members readsBack]
  cases envelope.content.hasHeap <;> rfl

theorem read?_writeRequest {envelope : Envelope Request}
    (readsBack : ∀ value ∈ envelope.content.values, value.ReadsBack) :
    (Json.read? envelope.writeRequest).bind ofRequestJson? =
      if envelope.content.hasHeap then none else some envelope := by
  have tidy : (envelope.toJson Request.members).Tidy 8 :=
    tidy_toJson (Request.tidy_members readsBack)
  rw [writeRequest, tidy.read?_write, Option.bind_some, ofRequestJson?_toJson readsBack]

end Envelope

end Watch
