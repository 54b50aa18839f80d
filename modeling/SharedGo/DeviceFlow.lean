/-
This file proves that the flow of devices is safe. A request stores one record
under a device code and a user code; the user approves it by the one, and the
device polls by the other. In every run of calls, both maps hold the records of the
requests that have not been granted a token, each with its last approval; a device
code is granted one token at most, to the client it was issued to, within its time,
and for the user of the last approval.
-/

import SharedGo.OAuthProvider
import SharedGo.Runs

namespace SharedGo.OAuth

open SharedGo Text Runs

/-! ### Calls -/

/-- The signer succeeds on the claims of devices, which are texts and numbers. -/
def SignsDevices (sign : Signer) (issuer audience : String) : Prop :=
  ∀ record deviceCode times, ∃ token,
    sign ((newMockOAuthProvider issuer audience).deviceClaims record deviceCode times) = .ok token

/-- An approval fails and changes nothing, or approves the record under its user code. -/
theorem approve_cases (provider : MockOAuthProvider) (userCode userID : String) (now : Time) :
    (∃ error, provider.approveDeviceCode userCode userID now = (some error, provider)) ∨
      ∃ record, provider.devices.findSecond userCode = some record ∧
        provider.approveDeviceCode userCode userID now =
          (none, { provider with
            devices := provider.devices.modifySecond userCode fun record =>
              { record with approved := true, userID } }) := by
  unfold MockOAuthProvider.approveDeviceCode
  cases found : provider.devices.findSecond userCode with
  | none => exact Or.inl ⟨.userCodeNotFound, rfl⟩
  | some record =>
    by_cases late : now.after record.expiresAt = true
    · exact Or.inl ⟨.deviceAuthExpired, if_pos late⟩
    · exact Or.inr ⟨record, rfl, if_neg late⟩

section Polls

variable {sign : Signer} {issuer audience : String} (signs : SignsDevices sign issuer audience)
  (provider : MockOAuthProvider)
  (named : provider.issuer = issuer ∧ provider.audience = audience)

include signs named

/-- A poll fails and changes nothing, or finds an approved record of its client in time and removes
it for a token. -/
theorem poll_cases (clientID deviceCode : String) (times : CallTimes) :
    (∃ error, provider.pollDeviceToken sign clientID deviceCode times =
        (.error error, provider)) ∨
      ∃ record token, provider.devices.findFirst deviceCode = some record ∧
        times.checked.after record.expiresAt = false ∧ record.clientID = clientID ∧
        record.approved = true ∧
        sign ((newMockOAuthProvider issuer audience).deviceClaims record deviceCode times) =
          .ok token ∧
        provider.pollDeviceToken sign clientID deviceCode times =
          (.ok token, { provider with
            devices := provider.devices.remove record.deviceCode record.userCode }) := by
  unfold MockOAuthProvider.pollDeviceToken
  cases found : provider.devices.findFirst deviceCode with
  | none => exact Or.inl ⟨.invalidGrant, rfl⟩
  | some record =>
    cases late : times.checked.after record.expiresAt with
    | true => exact Or.inl ⟨.deviceAuthExpired, if_pos late⟩
    | false =>
      by_cases foreign : record.clientID = clientID
      · cases approved : record.approved with
        | false => exact Or.inl ⟨.deviceAuthPending, by simp [late, foreign, approved]⟩
        | true =>
          obtain ⟨token, signed⟩ := signs record deviceCode times
          refine Or.inr ⟨record, token, rfl, late, foreign, approved, signed, ?_⟩
          obtain ⟨rfl, rfl⟩ := named
          simp only [late, foreign, approved, Bool.false_eq_true, if_false, ne_eq,
            not_true_eq_false, Bool.not_true]
          exact Prod.ext ((signToken_ok_iff sign _ token).mpr signed) rfl
      · exact Or.inl ⟨.invalidGrant, by simp [late, foreign]⟩

end Polls

/-! ### Runs -/

inductive DeviceCall where
  | request (clientID : String) (scopes : List String) (deviceBytes userBytes : Except String Bytes)
  | approve (userCode userID : String)
  | poll (clientID deviceCode : String) (expires issued : Time)

/-- A call and when it is made. -/
structure DeviceEvent where
  now : Time
  call : DeviceCall

structure DeviceState where
  provider : MockOAuthProvider
  now : Time

section Device

variable [CaseMapping] (sign : Signer)

/-- The provider after a call. -/
def MockOAuthProvider.call (provider : MockOAuthProvider) (event : DeviceEvent) :
    MockOAuthProvider :=
  match event.call with
  | .request clientID scopes deviceBytes userBytes =>
    (provider.requestDeviceCode clientID scopes deviceBytes userBytes event.now).2
  | .approve userCode userID => (provider.approveDeviceCode userCode userID event.now).2
  | .poll clientID deviceCode expires issued =>
    (provider.pollDeviceToken sign clientID deviceCode ⟨event.now, expires, issued⟩).2

/-- The clock does not go back. -/
def deviceStep (state : DeviceState) (event : DeviceEvent) : Option DeviceState :=
  if event.now.nanoseconds < state.now.nanoseconds then none
  else some ⟨state.provider.call sign event, event.now⟩

/-- A new provider, at some time. -/
def newDeviceState (issuer audience : String) (start : Time) : DeviceState :=
  ⟨newMockOAuthProvider issuer audience, start⟩

/-! ### What calls do -/

/-- A request that succeeded. -/
structure DeviceRequest where
  clientID : String
  scopes : List String
  deviceBytes : Bytes
  userBytes : Bytes
  now : Time

def DeviceRequest.deviceCode (request : DeviceRequest) : String := hexEncode request.deviceBytes

def DeviceRequest.userCode (request : DeviceRequest) : String :=
  MockOAuthProvider.userCodeOf request.userBytes

/-- The record of a request, with the user of its last approval if there is one. -/
def DeviceRequest.record (request : DeviceRequest) (approval : Option String) :
    DeviceCodeRecord where
  deviceCode := request.deviceCode
  userCode := request.userCode
  clientID := request.clientID
  scopes := request.scopes
  userID := approval.getD ""
  approved := approval.isSome
  expiresAt := request.now.add (10 * minute)

omit [CaseMapping] in
def requestOf (event : DeviceEvent) : Option DeviceRequest :=
  match event.call with
  | .request clientID scopes (.ok deviceBytes) (.ok userBytes) =>
    some ⟨clientID, scopes, deviceBytes, userBytes, event.now⟩
  | _ => none

/-- The requests of a run that succeeded. -/
def deviceRequests (events : List DeviceEvent) : List DeviceRequest := events.filterMap requestOf

/-- A successful approval. -/
structure Approval where
  userCode : String
  userID : String

/-- The approval of an event, if it is one and succeeds. -/
def approvalOf (state : DeviceState) (event : DeviceEvent) : Option Approval :=
  match event.call with
  | .approve userCode userID =>
    if (state.provider.approveDeviceCode userCode userID event.now).1 = none then
      some ⟨userCode, userID⟩
    else none
  | _ => none

/-- A token for a device code. -/
structure Grant where
  deviceCode : String
  token : String

/-- The token of an event, if it is a poll and succeeds. -/
def grantOf (state : DeviceState) (event : DeviceEvent) : Option Grant :=
  match event.call with
  | .poll clientID deviceCode expires issued =>
    match (state.provider.pollDeviceToken sign clientID deviceCode
      ⟨event.now, expires, issued⟩).1 with
    | .ok token => some ⟨deviceCode, token⟩
    | .error _ => none
  | _ => none

/-- The approvals of a run that succeeded. -/
def approvals (start : DeviceState) (events : List DeviceEvent) : List Approval :=
  observations (deviceStep sign) approvalOf start events

/-- The tokens of a run. -/
def grants (start : DeviceState) (events : List DeviceEvent) : List Grant :=
  observations (deviceStep sign) (grantOf sign) start events

omit [CaseMapping] in
/-- The user of the last approval of a user code. -/
def lastApproval (approvals : List Approval) (userCode : String) : Option String :=
  ((approvals.filter fun approval => approval.userCode = userCode).getLast?).map Approval.userID

/-- What a step does to the records, with what it shows. -/
inductive DeviceStepped (state : DeviceState) (event : DeviceEvent) :
    TwoIndexed String String DeviceCodeRecord → Prop
  | requested (request : DeviceRequest) (requests : requestOf event = some request)
      (noApproval : approvalOf state event = none) (noGrant : grantOf sign state event = none) :
      DeviceStepped state event
        (state.provider.devices.add request.deviceCode request.userCode (request.record none))
  | approved (approval : Approval) (noRequest : requestOf event = none)
      (approves : approvalOf state event = some approval) (record : DeviceCodeRecord)
      (found : state.provider.devices.findSecond approval.userCode = some record)
      (noGrant : grantOf sign state event = none) :
      DeviceStepped state event
        (state.provider.devices.modifySecond approval.userCode fun record =>
          { record with approved := true, userID := approval.userID })
  | granted (grant : Grant) (record : DeviceCodeRecord) (noRequest : requestOf event = none)
      (noApproval : approvalOf state event = none) (grants : grantOf sign state event = some grant)
      (found : state.provider.devices.findFirst grant.deviceCode = some record) :
      DeviceStepped state event
        (state.provider.devices.remove record.deviceCode record.userCode)
  | kept (noRequest : requestOf event = none) (noApproval : approvalOf state event = none)
      (noGrant : grantOf sign state event = none) :
      DeviceStepped state event state.provider.devices

section Stepping

variable {issuer audience : String} (signs : SignsDevices sign issuer audience)
  (state : DeviceState)
  (named : state.provider.issuer = issuer ∧ state.provider.audience = audience)
  (event : DeviceEvent)

include signs named

theorem call_stepped :
    DeviceStepped sign state event (state.provider.call sign event).devices ∧
      (state.provider.call sign event).issuer = issuer ∧
      (state.provider.call sign event).audience = audience := by
  obtain ⟨now, call⟩ := event
  cases call with
  | request clientID scopes deviceBytes userBytes =>
    cases deviceBytes with
    | error reason => exact ⟨.kept rfl rfl rfl, named⟩
    | ok deviceBytes =>
      cases userBytes with
      | error reason => exact ⟨.kept rfl rfl rfl, named⟩
      | ok userBytes =>
        exact ⟨.requested ⟨clientID, scopes, deviceBytes, userBytes, now⟩ rfl rfl rfl, named⟩
  | approve userCode userID =>
    simp only [MockOAuthProvider.call]
    rcases approve_cases state.provider userCode userID now with
      ⟨error, failed⟩ | ⟨record, found, approved⟩
    · rw [failed]
      exact ⟨.kept rfl (by simp [approvalOf, failed]) rfl, named⟩
    · rw [approved]
      exact ⟨.approved ⟨userCode, userID⟩ rfl (by simp [approvalOf, approved]) record found rfl,
        named⟩
  | poll clientID deviceCode expires issued =>
    simp only [MockOAuthProvider.call]
    rcases poll_cases signs state.provider named clientID deviceCode ⟨now, expires, issued⟩
      with ⟨error, failed⟩ | ⟨record, token, found, _, _, _, _, granted⟩
    · rw [failed]
      exact ⟨.kept rfl rfl (by simp [grantOf, failed]), named⟩
    · rw [granted]
      exact ⟨.granted ⟨deviceCode, token⟩ record rfl rfl (by simp [grantOf, granted]) found, named⟩

end Stepping

/-! ### What the maps hold -/

omit [CaseMapping] in
theorem deviceRequests_concat (past : List DeviceEvent) (event : DeviceEvent) :
    deviceRequests (past ++ [event]) = deviceRequests past ++ (requestOf event).toList :=
  filterMap_concat requestOf past event

/-- The codes of the requests are all different. -/
def DistinctCodes (requests : List DeviceRequest) : Prop :=
  requests.Pairwise fun first second =>
    first.deviceCode ≠ second.deviceCode ∧ first.userCode ≠ second.userCode

/-- Both maps hold the records of the requests that have not been granted, with their last
approvals, and no other. -/
structure Outstanding (requests : List DeviceRequest) (approvals : List Approval)
    (grants : List Grant) (devices : TwoIndexed String String DeviceCodeRecord) : Prop where
  paired : devices.Paired DeviceCodeRecord.deviceCode DeviceCodeRecord.userCode
  held : ∀ request ∈ requests, devices.findFirst request.deviceCode =
    if request.deviceCode ∈ grants.map Grant.deviceCode then none
    else some (request.record (lastApproval approvals request.userCode))
  known : ∀ deviceCode record, devices.findFirst deviceCode = some record →
    ∃ request ∈ requests, request.deviceCode = deviceCode
  approved : ∀ approval ∈ approvals, ∃ request ∈ requests, request.userCode = approval.userCode
  granted : ∀ grant ∈ grants, ∃ request ∈ requests, request.deviceCode = grant.deviceCode
  once : (grants.map Grant.deviceCode).Nodup

omit [CaseMapping] in
theorem lastApproval_concat (approvals : List Approval) (approval : Approval) (userCode : String) :
    lastApproval (approvals ++ [approval]) userCode =
      if approval.userCode = userCode then some approval.userID
      else lastApproval approvals userCode := by
  unfold lastApproval
  rw [List.filter_append]
  by_cases same : approval.userCode = userCode
  · simp [same]
  · simp [same]

omit [CaseMapping] in
theorem lastApproval_none (approvals : List Approval) (userCode : String)
    (absent : ∀ approval ∈ approvals, approval.userCode ≠ userCode) :
    lastApproval approvals userCode = none := by
  have empty : (approvals.filter fun approval => approval.userCode = userCode) = [] := by
    rw [List.filter_eq_nil_iff]
    intro approval member
    simpa using absent approval member
  rw [lastApproval, empty]
  rfl

section Step

variable {requests : List DeviceRequest} {approvals : List Approval} {grants : List Grant}
  {devices : TwoIndexed String String DeviceCodeRecord}
  (outstanding : Outstanding requests approvals grants devices)

include outstanding

/-- A record that is found is that of a request which has not been granted. -/
theorem Outstanding.origin (deviceCode : String) (record : DeviceCodeRecord)
    (found : devices.findFirst deviceCode = some record) :
    ∃ request ∈ requests, request.deviceCode = deviceCode ∧
      deviceCode ∉ grants.map Grant.deviceCode ∧
      record = request.record (lastApproval approvals request.userCode) := by
  obtain ⟨request, member, rfl⟩ := outstanding.known deviceCode record found
  have held := outstanding.held request member
  rw [found] at held
  split_ifs at held with wasGranted
  exact ⟨request, member, rfl, wasGranted, Option.some_inj.mp held⟩

theorem Outstanding.userCode_known (userCode : String) (record : DeviceCodeRecord)
    (found : devices.findSecond userCode = some record) :
    ∃ request ∈ requests, request.userCode = userCode := by
  obtain ⟨first, keyed⟩ := (outstanding.paired.findSecond_iff userCode record).mp found
  obtain ⟨request, member, _, _, rfl⟩ := outstanding.origin _ record first
  exact ⟨request, member, keyed⟩

theorem Outstanding.isSome_iff (request : DeviceRequest) (member : request ∈ requests) :
    (devices.findFirst request.deviceCode).isSome ↔
      ∀ grant ∈ grants, grant.deviceCode ≠ request.deviceCode := by
  rw [outstanding.held request member]
  split_ifs with wasGranted
  · obtain ⟨grant, isGrant, same⟩ := List.mem_map.mp wasGranted
    refine ⟨fun found => absurd found Bool.false_ne_true, fun ungranted => ?_⟩
    exact absurd same (ungranted grant isGrant)
  · refine ⟨fun _ grant isGrant same => ?_, fun _ => rfl⟩
    exact wasGranted (List.mem_map.mpr ⟨grant, isGrant, same⟩)

/-- The codes of a request lead to one record, or both to none. -/
theorem Outstanding.findFirst_eq_findSecond
    (userCodes : (requests.map DeviceRequest.userCode).Nodup) (request : DeviceRequest)
    (member : request ∈ requests) :
    devices.findFirst request.deviceCode = devices.findSecond request.userCode := by
  cases found : devices.findFirst request.deviceCode with
  | some record =>
    have held := outstanding.held request member
    rw [found] at held
    split_ifs at held
    obtain rfl := Option.some_inj.mp held
    exact (outstanding.paired.findSecond_of_findFirst _ _ found).symm
  | none =>
    refine (Option.eq_none_iff_forall_ne_some.mpr fun record foundSecond => ?_).symm
    obtain ⟨first, keyed⟩ := (outstanding.paired.findSecond_iff _ record).mp foundSecond
    obtain ⟨other, otherMember, sameDevice, _, rfl⟩ := outstanding.origin _ record first
    obtain rfl : other = request := List.inj_on_of_nodup_map userCodes otherMember member keyed
    rw [sameDevice] at found
    cases found.symm.trans first

theorem outstanding_request (request : DeviceRequest)
    (fresh : ∀ old ∈ requests, old.deviceCode ≠ request.deviceCode ∧
      old.userCode ≠ request.userCode) :
    Outstanding (requests ++ [request]) approvals grants
      (devices.add request.deviceCode request.userCode (request.record none)) := by
  have freshDevice : devices.findFirst request.deviceCode = none := by
    refine Option.eq_none_iff_forall_ne_some.mpr fun record found => ?_
    obtain ⟨old, member, same⟩ := outstanding.known _ record found
    exact (fresh old member).1 same
  have freshUser : devices.findSecond request.userCode = none := by
    refine Option.eq_none_iff_forall_ne_some.mpr fun record found => ?_
    obtain ⟨old, member, same⟩ := outstanding.userCode_known _ record found
    exact (fresh old member).2 same
  have find (deviceCode : String) := outstanding.paired.findFirst_add request.deviceCode deviceCode
    request.userCode (request.record none)
  have grow {Holds : DeviceRequest → Prop} (old : ∃ other ∈ requests, Holds other) :
      ∃ other ∈ requests ++ [request], Holds other := by
    obtain ⟨other, member, holds⟩ := old
    exact ⟨other, List.mem_append_left _ member, holds⟩
  refine ⟨outstanding.paired.add (request.record none) freshDevice freshUser, ?_, ?_, ?_, ?_,
    outstanding.once⟩
  · intro other member
    rw [find]
    rcases List.mem_append.mp member with old | isNew
    · rw [if_neg (fresh other old).1]
      exact outstanding.held other old
    · obtain rfl := List.mem_singleton.mp isNew
      have notGranted : other.deviceCode ∉ grants.map Grant.deviceCode := by
        intro wasGranted
        obtain ⟨grant, member, same⟩ := List.mem_map.mp wasGranted
        obtain ⟨old, oldMember, sameOld⟩ := outstanding.granted grant member
        exact (fresh old oldMember).1 (sameOld.trans same)
      have notApproved : lastApproval approvals other.userCode = none := by
        refine lastApproval_none approvals other.userCode fun approval member same => ?_
        obtain ⟨old, oldMember, sameOld⟩ := outstanding.approved approval member
        exact (fresh old oldMember).2 (sameOld.trans same)
      rw [if_pos rfl, if_neg notGranted, notApproved]
  · intro deviceCode record found
    rw [find] at found
    split_ifs at found with isNew
    · exact ⟨request, List.mem_append_right _ List.mem_cons_self, isNew.symm⟩
    · exact grow (outstanding.known deviceCode record found)
  · exact fun approval member => grow (outstanding.approved approval member)
  · exact fun grant member => grow (outstanding.granted grant member)

theorem outstanding_approve (approval : Approval) (record : DeviceCodeRecord)
    (found : devices.findSecond approval.userCode = some record) :
    Outstanding requests (approvals ++ [approval]) grants
      (devices.modifySecond approval.userCode fun record =>
        { record with approved := true, userID := approval.userID }) := by
  have find (deviceCode : String) := outstanding.paired.findFirst_modifySecond approval.userCode
    (fun record => { record with approved := true, userID := approval.userID }) deviceCode
  refine ⟨outstanding.paired.modifySecond _ _ (fun _ => rfl) (fun _ => rfl), ?_, ?_, ?_,
    outstanding.granted, outstanding.once⟩
  · intro request member
    rw [find, outstanding.held request member, lastApproval_concat]
    split_ifs with wasGranted same
    · rfl
    · exact congrArg some (if_pos same.symm)
    · exact congrArg some (if_neg (Ne.symm same))
  · intro deviceCode changed isChanged
    rw [find] at isChanged
    obtain ⟨old, foundOld, _⟩ := Option.map_eq_some_iff.mp isChanged
    exact outstanding.known deviceCode old foundOld
  · intro other member
    rcases List.mem_append.mp member with earlier | isNew
    · exact outstanding.approved other earlier
    · obtain rfl := List.mem_singleton.mp isNew
      exact outstanding.userCode_known _ record found

theorem outstanding_grant (grant : Grant) (record : DeviceCodeRecord)
    (found : devices.findFirst grant.deviceCode = some record) :
    Outstanding requests approvals (grants ++ [grant])
      (devices.remove record.deviceCode record.userCode) := by
  have keyed : record.deviceCode = grant.deviceCode :=
    outstanding.paired.findFirst_key _ record found
  have find (deviceCode : String) :
      (devices.remove record.deviceCode record.userCode).findFirst deviceCode =
        if deviceCode = grant.deviceCode then none else devices.findFirst deviceCode := by
    rw [TwoIndexed.Paired.findFirst_remove, keyed]
  have codes : (grants ++ [grant]).map Grant.deviceCode =
      grants.map Grant.deviceCode ++ [grant.deviceCode] := List.map_append
  obtain ⟨request, member, isCode, notGranted, _⟩ := outstanding.origin _ record found
  refine ⟨outstanding.paired.remove record (keyed ▸ found), ?_, ?_, outstanding.approved, ?_, ?_⟩
  · intro other otherMember
    rw [find, outstanding.held other otherMember, codes]
    by_cases same : other.deviceCode = grant.deviceCode
    · simp [same]
    · simp [same]
  · intro deviceCode other foundOther
    rw [find] at foundOther
    split_ifs at foundOther
    exact outstanding.known deviceCode other foundOther
  · intro other otherMember
    rcases List.mem_append.mp otherMember with earlier | isNew
    · exact outstanding.granted other earlier
    · obtain rfl := List.mem_singleton.mp isNew
      exact ⟨request, member, isCode⟩
  · rw [codes, List.nodup_append]
    refine ⟨outstanding.once, List.nodup_singleton _, fun code old other isNew same => ?_⟩
    rw [same, List.mem_singleton.mp isNew] at old
    exact notGranted old

end Step

/-- In every run of requests with different codes, the maps hold what is outstanding. -/
theorem run_outstanding (issuer audience : String) (start : Time) (events : List DeviceEvent)
    (state : DeviceState) (signs : SignsDevices sign issuer audience)
    (run : exec (deviceStep sign) (newDeviceState issuer audience start) events = some state)
    (distinct : DistinctCodes (deviceRequests events)) :
    (state.provider.issuer = issuer ∧ state.provider.audience = audience) ∧
      Outstanding (deviceRequests events)
        (approvals sign (newDeviceState issuer audience start) events)
        (grants sign (newDeviceState issuer audience start) events) state.provider.devices := by
  refine exec_histories (deviceStep sign) (newDeviceState issuer audience start)
    (fun past state => DistinctCodes (deviceRequests past) →
      (state.provider.issuer = issuer ∧ state.provider.audience = audience) ∧
        Outstanding (deviceRequests past)
          (approvals sign (newDeviceState issuer audience start) past)
          (grants sign (newDeviceState issuer audience start) past) state.provider.devices)
    ?_ ?_ events state run distinct
  · intro _
    refine ⟨⟨rfl, rfl⟩, TwoIndexed.paired_empty, ?_, ?_, ?_, ?_, List.nodup_nil⟩
    · exact fun request member => absurd member List.not_mem_nil
    · intro deviceCode record found
      cases found
    · exact fun approval member => absurd member List.not_mem_nil
    · exact fun grant member => absurd member List.not_mem_nil
  · intro past state event next ran stepped known distinct
    have sameApprovals := observations_concat (deviceStep sign) approvalOf _ state next past event
      ran stepped
    have sameGrants := observations_concat (deviceStep sign) (grantOf sign) _ state next past event
      ran stepped
    rw [deviceRequests_concat] at distinct ⊢
    rw [approvals, grants, sameApprovals, sameGrants]
    have earlier : DistinctCodes (deviceRequests past) := (List.pairwise_append.mp distinct).1
    obtain ⟨named, outstanding⟩ := known earlier
    obtain ⟨change, sameNames⟩ := call_stepped sign signs state named event
    obtain rfl : (⟨state.provider.call sign event, event.now⟩ : DeviceState) = next := by
      unfold deviceStep at stepped
      split_ifs at stepped
      exact Option.some_inj.mp stepped
    refine ⟨sameNames, ?_⟩
    generalize (state.provider.call sign event).devices = devices at change
    cases change with
    | requested request requests noApproval noGrant =>
      rw [requests] at distinct
      simp only [requests, noApproval, noGrant, Option.toList_none, Option.toList_some,
        List.append_nil]
      refine outstanding_request outstanding request fun old member => ?_
      exact (List.pairwise_append.mp distinct).2.2 old member request List.mem_cons_self
    | approved approval noRequest approves record found noGrant =>
      simp only [noRequest, approves, noGrant, Option.toList_none, Option.toList_some,
        List.append_nil]
      exact outstanding_approve outstanding approval record found
    | granted grant record noRequest noApproval grants found =>
      simp only [noRequest, noApproval, grants, Option.toList_none, Option.toList_some,
        List.append_nil]
      exact outstanding_grant outstanding grant record found
    | kept noRequest noApproval noGrant =>
      simp only [noRequest, noApproval, noGrant, Option.toList_none, List.append_nil]
      exact outstanding

theorem distinctCodes_of_nodup (requests : List DeviceRequest)
    (deviceCodes : (requests.map DeviceRequest.deviceCode).Nodup)
    (userCodes : (requests.map DeviceRequest.userCode).Nodup) : DistinctCodes requests :=
  (List.pairwise_map.mp deviceCodes).and (List.pairwise_map.mp userCodes)

/-- In every run of requests with different codes: the two maps hold the same records, those of the
requests without a token, and nothing else; a device code gets one token at most; a poll that gets
one names a device code that was issued to its client, in time, and the subject of the token is the
user of the last approval; and a poll that gets none changes nothing. -/
theorem device_flow_safe (issuer audience : String) (start : Time) (events : List DeviceEvent)
    (state : DeviceState) (signs : SignsDevices sign issuer audience)
    (run : exec (deviceStep sign) (newDeviceState issuer audience start) events = some state)
    (deviceCodes : ((deviceRequests events).map DeviceRequest.deviceCode).Nodup)
    (userCodes : ((deviceRequests events).map DeviceRequest.userCode).Nodup) :
    ((∀ pointer, (∃ code, state.provider.devices.byFirst.lookup code = some pointer) ↔
          ∃ code, state.provider.devices.bySecond.lookup code = some pointer) ∧
        (∀ request ∈ deviceRequests events,
          state.provider.devices.findFirst request.deviceCode =
              state.provider.devices.findSecond request.userCode ∧
            ((state.provider.devices.findFirst request.deviceCode).isSome ↔
              ∀ grant ∈ grants sign (newDeviceState issuer audience start) events,
                grant.deviceCode ≠ request.deviceCode)) ∧
        (∀ code record, state.provider.devices.findFirst code = some record →
          ∃ request ∈ deviceRequests events, request.deviceCode = code) ∧
        (∀ code record, state.provider.devices.findSecond code = some record →
          ∃ request ∈ deviceRequests events, request.userCode = code)) ∧
      ((grants sign (newDeviceState issuer audience start) events).map Grant.deviceCode).Nodup ∧
      (∀ clientID deviceCode times token,
        (state.provider.pollDeviceToken sign clientID deviceCode times).1 = .ok token →
        ∃ request ∈ deviceRequests events, ∃ userID claims,
          request.deviceCode = deviceCode ∧ request.clientID = clientID ∧
          times.checked.nanoseconds ≤ request.now.nanoseconds + 10 * minute ∧
          lastApproval (approvals sign (newDeviceState issuer audience start) events)
            request.userCode = some userID ∧
          sign claims = .ok token ∧ claims.lookup "sub" = some (.text userID)) ∧
      (∀ clientID deviceCode times error,
        (state.provider.pollDeviceToken sign clientID deviceCode times).1 = .error error →
        (state.provider.pollDeviceToken sign clientID deviceCode times).2 = state.provider) := by
  have distinct := distinctCodes_of_nodup _ deviceCodes userCodes
  obtain ⟨named, outstanding⟩ := run_outstanding sign issuer audience start events state signs run
    distinct
  refine ⟨⟨outstanding.paired.pointers_iff, ?_, outstanding.known, outstanding.userCode_known⟩,
    outstanding.once, ?_, ?_⟩
  · intro request member
    exact ⟨outstanding.findFirst_eq_findSecond userCodes request member,
      outstanding.isSome_iff request member⟩
  · intro clientID deviceCode times token polled
    rcases poll_cases signs state.provider named clientID deviceCode times with
      ⟨error, failed⟩ | ⟨record, signed, found, inTime, isClient, isApproved, sign, granted⟩
    · rw [failed] at polled
      cases polled
    · rw [granted] at polled
      obtain rfl : signed = token := Except.ok.inj polled
      obtain ⟨request, member, isCode, _, rfl⟩ := outstanding.origin deviceCode record found
      obtain ⟨userID, approval⟩ := Option.isSome_iff_exists.mp isApproved
      refine ⟨request, member, userID, _, isCode, isClient, ?_, approval, sign, ?_⟩
      · exact Int.not_lt.mp (of_decide_eq_false inTime)
      · rw [(deviceClaims_issued _ _ _ _).sub, DeviceRequest.record, approval, Option.getD_some]
  · intro clientID deviceCode times error polled
    rcases poll_cases signs state.provider named clientID deviceCode times with
      ⟨_, failed⟩ | ⟨record, token, _, _, _, _, _, granted⟩
    · rw [failed]
    · rw [granted] at polled
      cases polled

end Device

/-- A device that is approved by two users, one after the other, while another client polls. -/
def approvedTwice : List DeviceEvent :=
  [⟨⟨0⟩, .request "tv" ["read"] (.ok [7]) (.ok [1, 2, 3, 0xab])⟩,
    ⟨⟨1⟩, .approve "0102-03AB" "alice"⟩,
    ⟨⟨2⟩, .poll "phone" "07" ⟨2⟩ ⟨2⟩⟩,
    ⟨⟨3⟩, .approve "0102-03AB" "bob"⟩]

theorem approvedTwice_safe :
    ∃ state,
      exec (@deviceStep asciiCase fun _ => .ok "token")
        (newDeviceState "iss" "aud" ⟨0⟩) approvedTwice = some state ∧
      (state.provider.pollDeviceToken (fun _ => .ok "token") "tv" "07" ⟨⟨4⟩, ⟨4⟩, ⟨4⟩⟩).1 =
        .ok "token" ∧
      ∃ request ∈ deviceRequests approvedTwice,
        request.deviceCode = "07" ∧ request.clientID = "tv" ∧
        lastApproval (@approvals asciiCase (fun _ => .ok "token")
          (newDeviceState "iss" "aud" ⟨0⟩) approvedTwice)
          (@DeviceRequest.userCode asciiCase request) = some "bob" := by
  refine ⟨_, rfl, rfl, ?_⟩
  obtain ⟨request, member, userID, claims, isCode, isClient, _, approval, _⟩ :=
    (@device_flow_safe asciiCase (fun _ => .ok "token") "iss" "aud" ⟨0⟩ approvedTwice _
      (fun _ _ _ => ⟨"token", rfl⟩) rfl (List.nodup_singleton _) (List.nodup_singleton _)).2.2.1
      "tv" "07" ⟨⟨4⟩, ⟨4⟩, ⟨4⟩⟩ "token" rfl
  refine ⟨request, member, isCode, isClient, approval.trans ?_⟩
  obtain rfl := List.mem_singleton.mp member
  exact approval.symm

end SharedGo.OAuth
