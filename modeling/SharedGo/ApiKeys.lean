/-
This file models the in-memory store of API keys and their validation, and proves
the life of a key. The store has one record for each key, under the hash of the key
and under its identifier; a key is looked up by its hash and revoked by its
identifier. In every run of calls, a key validates exactly when some call created
it, no successful call revoked its identifier, and its time to live has not passed.
-/

import SharedGo.Encoding
import SharedGo.Principal
import SharedGo.Runs
import SharedGo.SharedRecords

namespace SharedGo.Authn

open SharedGo Runs

/-! ### The store -/

inductive APIKeyError where
  | notFound
  | revoked
  | expired
  deriving DecidableEq, Repr

def APIKeyError.message : APIKeyError → String
  | .notFound => "authn: api key not found or invalid"
  | .revoked => "authn: api key has been revoked"
  | .expired => "authn: api key has expired"

structure APIKeyRecord where
  id : String
  keyHash : String
  name : String
  ownerID : String
  clientID : String
  scopes : List String
  roles : List String
  revoked : Bool
  createdAt : Time
  expiresAt : Option Time
  metadata : GoMap String Dynamic

def hashAPIKey (rawKey : String) : String := hexEncode (Sha256.sum (textBytes rawKey))

/-- The records by the hashes of their keys, and by their identifiers. -/
abbrev MemoryAPIKeyStore := TwoIndexed String String APIKeyRecord

/-- What a key is asked for with. -/
structure KeyRequest where
  ownerID : String
  clientID : String
  name : String
  scopes : List String
  roles : List String
  ttl : Int

/-- The key of a call that succeeds: its request, the random bytes and the time. -/
structure Creation where
  request : KeyRequest
  keyBytes : Bytes
  idBytes : Bytes
  now : Time

namespace Creation

variable (creation : Creation)

def rawKey : String := "ak_live_" ++ hexEncode creation.keyBytes

def id : String := "key_" ++ hexEncode creation.idBytes

def expiresAt : Option Time :=
  if creation.request.ttl ≠ 0 then some (creation.now.add creation.request.ttl) else none

def record : APIKeyRecord where
  id := creation.id
  keyHash := hashAPIKey creation.rawKey
  name := creation.request.name
  ownerID := creation.request.ownerID
  clientID := creation.request.clientID
  scopes := creation.request.scopes
  roles := creation.request.roles
  revoked := false
  createdAt := creation.now
  expiresAt := creation.expiresAt
  metadata := ∅

end Creation

namespace MemoryAPIKeyStore

variable (store : MemoryAPIKeyStore)

/-- Creates a key. The failure of the random source is reported for the key, and ignored
for the identifier. -/
def createKey (request : KeyRequest) (keyBytes : Except String Bytes) (idBytes : Bytes)
    (now : Time) : Except String (String × APIKeyRecord) × MemoryAPIKeyStore :=
  match keyBytes with
  | .error reason => (.error ("authn: failed generating random api key: " ++ reason), store)
  | .ok keyBytes =>
    let creation : Creation := ⟨request, keyBytes, idBytes, now⟩
    (.ok (creation.rawKey, creation.record),
      store.add (hashAPIKey creation.rawKey) creation.id creation.record)

/-- The failure of a revocation, if any. -/
def revokeKey (id : String) : Option APIKeyError × MemoryAPIKeyStore :=
  match store.findSecond id with
  | none => (some .notFound, store)
  | some _ => (none, store.modifySecond id fun record => { record with revoked := true })

def lookup (now : Time) (keyHash : String) : Except APIKeyError APIKeyRecord :=
  match store.findFirst keyHash with
  | none => .error .notFound
  | some record =>
    if record.keyHash ≠ keyHash then .error .notFound
    else if record.revoked then .error .revoked
    else if record.expiresAt.any now.after then .error .expired
    else .ok record

/-- The principal of a key. -/
def validateKey (now : Time) (rawKey : String) : Except APIKeyError CredentialPrincipal :=
  if rawKey = "" then .error .notFound
  else
    match store.lookup now (hashAPIKey rawKey) with
    | .error error => .error error
    | .ok record => .ok {
        subject := record.ownerID
        clientID := record.clientID
        method := .apiKey
        scopes := record.scopes
        roles := record.roles
        metadata := (record.metadata.insert "api_key_id" (.string record.id)).insert
          "api_key_name" (.string record.name)
        issuer := ""
        audiences := []
        issuedAt := record.createdAt
        expiresAt := record.expiresAt.getD Time.zero
        rawToken := rawKey }

end MemoryAPIKeyStore

/-! ### Runs -/

inductive KeyCall where
  | createKey (request : KeyRequest) (keyBytes : Except String Bytes) (idBytes : Bytes)
  | revokeKey (id : String)
  | validateKey (rawKey : String)

/-- A call and when it is made. -/
structure KeyEvent where
  now : Time
  call : KeyCall

structure KeyState where
  store : MemoryAPIKeyStore
  now : Time

/-- The store after a call; the clock does not go back. -/
def keyStep (state : KeyState) (event : KeyEvent) : Option KeyState :=
  if event.now.nanoseconds < state.now.nanoseconds then none
  else
    match event.call with
    | .createKey request keyBytes idBytes =>
      some ⟨(state.store.createKey request keyBytes idBytes event.now).2, event.now⟩
    | .revokeKey id => some ⟨(state.store.revokeKey id).2, event.now⟩
    | .validateKey _ => some ⟨state.store, event.now⟩

/-- The store of a new provider, at some time. -/
def newMemoryAPIKeyStore (now : Time) : KeyState := ⟨.empty, now⟩

def creationOf (event : KeyEvent) : Option Creation :=
  match event.call with
  | .createKey request (.ok keyBytes) idBytes => some ⟨request, keyBytes, idBytes, event.now⟩
  | _ => none

/-- The keys that were created. -/
def creations (events : List KeyEvent) : List Creation := events.filterMap creationOf

/-- The event is a successful revocation of the identifier. -/
def Revokes (id : String) (state : KeyState) (event : KeyEvent) : Prop :=
  event.call = .revokeKey id ∧ (state.store.revokeKey id).1 = none

/-- Some call revoked the identifier. -/
def Revoked (start : Time) (events : List KeyEvent) (id : String) : Prop :=
  Occurs keyStep (Revokes id) (newMemoryAPIKeyStore start) events

theorem revokeKey_none_iff (store : MemoryAPIKeyStore) (id : String) :
    (store.revokeKey id).1 = none ↔ ∃ record, store.findSecond id = some record := by
  unfold MemoryAPIKeyStore.revokeKey
  cases store.findSecond id with
  | none => simp
  | some record => simp

theorem revokes_iff (id : String) (state : KeyState) (event : KeyEvent) :
    Revokes id state event ↔
      event.call = .revokeKey id ∧ ∃ record, state.store.findSecond id = some record :=
  and_congr_right fun _ => revokeKey_none_iff state.store id

/-- What a step does to the store. -/
inductive KeyStepped (store : MemoryAPIKeyStore) (event : KeyEvent) : MemoryAPIKeyStore → Prop
  | created (creation : Creation) (creates : creationOf event = some creation) :
      KeyStepped store event
        (store.add (hashAPIKey creation.rawKey) creation.id creation.record)
  | revoked (id : String) (revokes : event.call = .revokeKey id) (record : APIKeyRecord)
      (found : store.findSecond id = some record) :
      KeyStepped store event
        (store.modifySecond id fun record => { record with revoked := true })
  | kept (none : creationOf event = none)
      (unknown : ∀ id, event.call = .revokeKey id → store.findSecond id = Option.none) :
      KeyStepped store event store

theorem keyStepped (state : KeyState) (event : KeyEvent) (next : KeyState)
    (stepped : keyStep state event = some next) :
    state.now.nanoseconds ≤ event.now.nanoseconds ∧ next.now = event.now ∧
      KeyStepped state.store event next.store := by
  obtain ⟨now, call⟩ := event
  unfold keyStep at stepped
  split_ifs at stepped with early
  refine ⟨Int.not_lt.mp early, ?_⟩
  cases call with
  | createKey request keyBytes idBytes =>
    obtain rfl := Option.some_inj.mp stepped
    refine ⟨rfl, ?_⟩
    cases keyBytes with
    | error reason => exact .kept rfl fun id other => by cases other
    | ok bytes => exact .created ⟨request, bytes, idBytes, now⟩ rfl
  | revokeKey id =>
    obtain rfl := Option.some_inj.mp stepped
    refine ⟨rfl, ?_⟩
    unfold MemoryAPIKeyStore.revokeKey
    cases found : state.store.findSecond id with
    | none =>
      refine .kept rfl fun other same => ?_
      obtain rfl := KeyCall.revokeKey.inj same
      exact found
    | some record => exact .revoked id rfl record found
  | validateKey rawKey =>
    obtain rfl := Option.some_inj.mp stepped
    exact ⟨rfl, .kept rfl fun id other => by cases other⟩

/-! ### What the store records -/

/-- The hashes and the identifiers of the keys are all different. -/
def Distinct (events : List KeyEvent) : Prop :=
  (creations events).Pairwise fun first second =>
    hashAPIKey first.rawKey ≠ hashAPIKey second.rawKey ∧ first.id ≠ second.id

/-- The store has the record of every key that was created, revoked if its identifier was, and no
other. -/
structure Recorded (start : Time) (past : List KeyEvent) (store : MemoryAPIKeyStore) : Prop where
  paired : store.Paired APIKeyRecord.keyHash APIKeyRecord.id
  created : ∀ creation ∈ creations past, ∃ flag,
    store.findFirst (hashAPIKey creation.rawKey) = some { creation.record with revoked := flag } ∧
      (flag = true ↔ Revoked start past creation.id)
  known : ∀ hash record, store.findFirst hash = some record →
    ∃ creation ∈ creations past, hash = hashAPIKey creation.rawKey
  revoked : ∀ id, Revoked start past id → ∃ creation ∈ creations past, creation.id = id

theorem creations_concat (past : List KeyEvent) (event : KeyEvent) :
    creations (past ++ [event]) = creations past ++ (creationOf event).toList :=
  filterMap_concat creationOf past event

section Step

variable (start : Time) (past : List KeyEvent) (state : KeyState) (event : KeyEvent)
  (ran : exec keyStep (newMemoryAPIKeyStore start) past = some state)

include ran

theorem revoked_concat (id : String) :
    Revoked start (past ++ [event]) id ↔ Revoked start past id ∨
      event.call = .revokeKey id ∧ ∃ record, state.store.findSecond id = some record := by
  rw [← revokes_iff]
  exact occurs_concat keyStep (Revokes id) _ state past event ran

omit ran in
theorem created_of_findSecond (recorded : Recorded start past state.store) (id : String)
    (record : APIKeyRecord) (found : state.store.findSecond id = some record) :
    ∃ creation ∈ creations past, creation.id = id := by
  obtain ⟨first, keyed⟩ := (recorded.paired.findSecond_iff id record).mp found
  obtain ⟨creation, member, hashed⟩ := recorded.known _ _ first
  obtain ⟨flag, stored, _⟩ := recorded.created creation member
  rw [← hashed, first, Option.some_inj] at stored
  refine ⟨creation, member, ?_⟩
  rw [← keyed, stored]
  rfl

theorem recorded_create (creation : Creation) (creates : creationOf event = some creation)
    (distinct : Distinct (past ++ [event])) (recorded : Recorded start past state.store) :
    Recorded start (past ++ [event])
      (state.store.add (hashAPIKey creation.rawKey) creation.id creation.record) := by
  have grown : creations (past ++ [event]) = creations past ++ [creation] := by
    rw [creations_concat, creates]
    rfl
  have others : ∀ old ∈ creations past, hashAPIKey old.rawKey ≠ hashAPIKey creation.rawKey ∧
      old.id ≠ creation.id := by
    rw [Distinct, grown, List.pairwise_append] at distinct
    exact fun old member => distinct.2.2 old member creation List.mem_cons_self
  have sameRevoked (id : String) :
      Revoked start (past ++ [event]) id ↔ Revoked start past id := by
    rw [revoked_concat start past state event ran, or_iff_left]
    rintro ⟨revokes, _⟩
    rw [creationOf, revokes] at creates
    cases creates
  have freshHash : state.store.findFirst (hashAPIKey creation.rawKey) = none := by
    refine Option.eq_none_iff_forall_ne_some.mpr fun record found => ?_
    obtain ⟨old, member, hashed⟩ := recorded.known _ record found
    exact (others old member).1 hashed.symm
  have freshID : state.store.findSecond creation.id = none := by
    refine Option.eq_none_iff_forall_ne_some.mpr fun record found => ?_
    obtain ⟨old, member, same⟩ := created_of_findSecond start past state recorded _ record found
    exact (others old member).2 same
  have find (hash : String) := recorded.paired.findFirst_add (hashAPIKey creation.rawKey) hash
    creation.id creation.record
  refine ⟨recorded.paired.add creation.record freshHash freshID, ?_, ?_, ?_⟩
  · intro old member
    rw [find, sameRevoked]
    rw [grown, List.mem_append, List.mem_singleton] at member
    rcases member with earlier | rfl
    · rw [if_neg (others old earlier).1]
      exact recorded.created old earlier
    · refine ⟨false, if_pos rfl, iff_of_false Bool.false_ne_true fun revoked => ?_⟩
      obtain ⟨other, otherMember, same⟩ := recorded.revoked _ revoked
      exact (others other otherMember).2 same
  · intro hash record found
    rw [find] at found
    rw [grown]
    split_ifs at found with isNew
    · exact ⟨creation, List.mem_append_right _ List.mem_cons_self, isNew⟩
    · obtain ⟨old, member, hashed⟩ := recorded.known hash record found
      exact ⟨old, List.mem_append_left _ member, hashed⟩
  · intro id revoked
    obtain ⟨old, member, same⟩ := recorded.revoked id ((sameRevoked id).mp revoked)
    rw [grown]
    exact ⟨old, List.mem_append_left _ member, same⟩

theorem recorded_revoke (id : String) (revokes : event.call = .revokeKey id)
    (record : APIKeyRecord) (found : state.store.findSecond id = some record)
    (recorded : Recorded start past state.store) :
    Recorded start (past ++ [event])
      (state.store.modifySecond id fun record => { record with revoked := true }) := by
  have same : creations (past ++ [event]) = creations past :=
    filterMap_concat_none creationOf past event (by rw [creationOf, revokes])
  have grown (other : String) :
      Revoked start (past ++ [event]) other ↔ Revoked start past other ∨ other = id := by
    rw [revoked_concat start past state event ran, revokes]
    refine or_congr_right ⟨fun revoked => ?_, ?_⟩
    · exact (KeyCall.revokeKey.inj revoked.1).symm
    · rintro rfl
      exact ⟨rfl, record, found⟩
  have find (hash : String) := recorded.paired.findFirst_modifySecond id
    (fun record => { record with revoked := true }) hash
  refine ⟨recorded.paired.modifySecond id _ (fun _ => rfl) (fun _ => rfl), ?_, ?_, ?_⟩
  · intro creation member
    rw [same] at member
    obtain ⟨flag, stored, revoked⟩ := recorded.created creation member
    rw [find, stored, Option.map_some, grown, ← revoked]
    by_cases isID : creation.id = id
    · exact ⟨true, by rw [if_pos (show creation.record.id = id from isID)], by simp [isID]⟩
    · exact ⟨flag, by rw [if_neg (show ¬creation.record.id = id from isID)], by simp [isID]⟩
  · intro hash changed foundChanged
    rw [find] at foundChanged
    obtain ⟨old, foundOld, _⟩ := Option.map_eq_some_iff.mp foundChanged
    rw [same]
    exact recorded.known hash old foundOld
  · intro other revoked
    rw [same]
    rcases (grown other).mp revoked with earlier | rfl
    · exact recorded.revoked other earlier
    · exact created_of_findSecond start past state recorded other record found

theorem recorded_keep (none : creationOf event = none)
    (unknown : ∀ id, event.call = .revokeKey id → state.store.findSecond id = Option.none)
    (recorded : Recorded start past state.store) :
    Recorded start (past ++ [event]) state.store := by
  have same : creations (past ++ [event]) = creations past :=
    filterMap_concat_none creationOf past event none
  have sameRevoked (id : String) :
      Revoked start (past ++ [event]) id ↔ Revoked start past id := by
    rw [revoked_concat start past state event ran, or_iff_left]
    rintro ⟨revokes, record, found⟩
    rw [unknown id revokes] at found
    cases found
  refine ⟨recorded.paired, ?_, ?_, ?_⟩
  · simpa only [same, sameRevoked] using recorded.created
  · simpa only [same] using recorded.known
  · simpa only [same, sameRevoked] using recorded.revoked

end Step

/-- In every run with different keys and identifiers the store records its history. -/
theorem run_recorded (start : Time) (events : List KeyEvent) (state : KeyState)
    (run : exec keyStep (newMemoryAPIKeyStore start) events = some state)
    (distinct : Distinct events) : Recorded start events state.store := by
  refine exec_histories keyStep (newMemoryAPIKeyStore start)
    (fun past state => Distinct past → Recorded start past state.store) ?_ ?_ events state run
    distinct
  · intro _
    refine ⟨TwoIndexed.paired_empty, ?_, ?_, ?_⟩
    · exact fun creation member => absurd member List.not_mem_nil
    · intro hash record found
      cases found
    · exact fun id revoked => absurd revoked (not_occurs_nil _ _ _)
  · intro past state event next ran stepped recorded distinct
    have earlier : Distinct past := by
      rw [Distinct, creations_concat, List.pairwise_append] at distinct
      exact distinct.1
    obtain ⟨_, _, stepped⟩ := keyStepped state event next stepped
    generalize next.store = store at stepped
    cases stepped with
    | created creation creates =>
      exact recorded_create start past state event ran creation creates distinct (recorded earlier)
    | revoked id revokes record found =>
      exact recorded_revoke start past state event ran id revokes record found (recorded earlier)
    | kept none unknown =>
      exact recorded_keep start past state event ran none unknown (recorded earlier)

/-! ### Validation -/

/-- The principal of a key. -/
def Creation.principal (creation : Creation) : CredentialPrincipal where
  subject := creation.request.ownerID
  clientID := creation.request.clientID
  method := .apiKey
  scopes := creation.request.scopes
  roles := creation.request.roles
  metadata := ((∅ : GoMap String Dynamic).insert "api_key_id" (.string creation.id)).insert
    "api_key_name" (.string creation.request.name)
  issuer := ""
  audiences := []
  issuedAt := creation.now
  expiresAt := creation.expiresAt.getD Time.zero
  rawToken := creation.rawKey

/-- The time to live of a key has not passed. -/
def Creation.Alive (creation : Creation) (now : Time) : Prop :=
  creation.request.ttl = 0 ∨
    now.nanoseconds ≤ creation.now.nanoseconds + creation.request.ttl

theorem expired_iff (creation : Creation) (now : Time) :
    creation.expiresAt.any now.after = true ↔ ¬creation.Alive now := by
  unfold Creation.expiresAt Creation.Alive
  by_cases forever : creation.request.ttl = 0
  · simp [forever]
  · simp [forever, Time.after, Time.add]

theorem rawKey_ne_empty (creation : Creation) : creation.rawKey ≠ "" := by
  intro empty
  have start := congrArg String.toList empty
  rw [Creation.rawKey, String.toList_append] at start
  cases start

section Validating

variable {start : Time} {past : List KeyEvent} {store : MemoryAPIKeyStore}
  (recorded : Recorded start past store) (now : Time)

include recorded

/-- A key that was created is refused if its identifier was revoked, then if its time has passed,
and else has the principal of its creation. -/
theorem validateKey_created (creation : Creation) (member : creation ∈ creations past) :
    ∃ flag, (flag = true ↔ Revoked start past creation.id) ∧
      store.validateKey now creation.rawKey =
        if flag = true then .error .revoked
        else if creation.expiresAt.any now.after then .error .expired
        else .ok creation.principal := by
  obtain ⟨flag, stored, revoked⟩ := recorded.created creation member
  refine ⟨flag, revoked, ?_⟩
  have found : store.lookup now (hashAPIKey creation.rawKey) =
      if flag = true then .error .revoked
      else if creation.expiresAt.any now.after then .error .expired
      else .ok { creation.record with revoked := flag } := by
    rw [MemoryAPIKeyStore.lookup, stored]
    exact if_neg (not_not.mpr rfl)
  rw [MemoryAPIKeyStore.validateKey, if_neg (rawKey_ne_empty creation), found]
  split_ifs
  · rfl
  · rfl
  · rfl

theorem validateKey_revoked_iff (creation : Creation) (member : creation ∈ creations past) :
    store.validateKey now creation.rawKey = .error .revoked ↔
      Revoked start past creation.id := by
  obtain ⟨flag, revoked, valid⟩ := validateKey_created recorded now creation member
  rw [valid, ← revoked]
  split_ifs with isRevoked
  · simp [isRevoked]
  · simp [isRevoked]
  · simp [isRevoked]

theorem validateKey_expired_iff (creation : Creation) (member : creation ∈ creations past) :
    store.validateKey now creation.rawKey = .error .expired ↔
      ¬Revoked start past creation.id ∧ ¬creation.Alive now := by
  obtain ⟨flag, revoked, valid⟩ := validateKey_created recorded now creation member
  rw [valid, ← revoked, ← expired_iff]
  split_ifs with isRevoked expired
  · simp [isRevoked]
  · simp [isRevoked, expired]
  · simp [isRevoked, expired]

theorem validateKey_ok_iff (creation : Creation) (member : creation ∈ creations past)
    (principal : CredentialPrincipal) :
    store.validateKey now creation.rawKey = .ok principal ↔
      ¬Revoked start past creation.id ∧ creation.Alive now ∧ creation.principal = principal := by
  obtain ⟨flag, revoked, valid⟩ := validateKey_created recorded now creation member
  rw [valid, ← revoked, ← not_not (a := creation.Alive now), ← expired_iff]
  split_ifs with isRevoked expired
  · simp [isRevoked]
  · simp [expired]
  · simp [isRevoked, expired]

theorem validateKey_unknown (rawKey : String)
    (unknown : ∀ creation ∈ creations past, hashAPIKey creation.rawKey ≠ hashAPIKey rawKey) :
    store.validateKey now rawKey = .error .notFound := by
  have missing : store.findFirst (hashAPIKey rawKey) = none := by
    refine Option.eq_none_iff_forall_ne_some.mpr fun record found => ?_
    obtain ⟨creation, member, hashed⟩ := recorded.known _ record found
    exact unknown creation member hashed.symm
  rw [MemoryAPIKeyStore.validateKey, MemoryAPIKeyStore.lookup, missing]
  split_ifs
  · rfl
  · rfl

/-- A key whose hash is that of no other key was created, or is not found. -/
theorem validateKey_cases (rawKey : String)
    (unique : ∀ creation ∈ creations past,
      hashAPIKey creation.rawKey = hashAPIKey rawKey → creation.rawKey = rawKey) :
    store.validateKey now rawKey = .error .notFound ∨
      ∃ creation ∈ creations past, creation.rawKey = rawKey := by
  by_cases known : ∃ creation ∈ creations past, creation.rawKey = rawKey
  · exact Or.inr known
  · refine Or.inl (validateKey_unknown recorded now rawKey fun creation member hashed => ?_)
    exact known ⟨creation, member, unique creation member hashed⟩

/-- The revocation of another identifier does not change the validation of a key. -/
theorem validateKey_revoke_other (creation : Creation) (member : creation ∈ creations past)
    (id : String) (other : creation.id ≠ id) :
    (store.revokeKey id).2.validateKey now creation.rawKey =
      store.validateKey now creation.rawKey := by
  obtain ⟨flag, stored, _⟩ := recorded.created creation member
  have same : (store.revokeKey id).2.findFirst (hashAPIKey creation.rawKey) =
      store.findFirst (hashAPIKey creation.rawKey) := by
    unfold MemoryAPIKeyStore.revokeKey
    split
    · rfl
    · rw [recorded.paired.findFirst_modifySecond, stored, Option.map_some,
        if_neg (show ¬creation.record.id = id from other)]
  rw [MemoryAPIKeyStore.validateKey, MemoryAPIKeyStore.validateKey, MemoryAPIKeyStore.lookup,
    MemoryAPIKeyStore.lookup, same]

end Validating

/-! ### The life of a key -/

/-- The keys of a run, and one that is asked about. -/
def keysUsed (events : List KeyEvent) (rawKey : String) : List String :=
  rawKey :: (creations events).map Creation.rawKey

/-- The checksums of the keys are different. -/
def CollisionFree (keys : List String) : Prop :=
  ∀ first ∈ keys, ∀ second ∈ keys,
    Sha256.sum (textBytes first) = Sha256.sum (textBytes second) → first = second

theorem rawKey_of_hash (events : List KeyEvent) (rawKey : String)
    (collisionFree : CollisionFree (keysUsed events rawKey)) (creation : Creation)
    (member : creation ∈ creations events)
    (hashed : hashAPIKey creation.rawKey = hashAPIKey rawKey) : creation.rawKey = rawKey := by
  refine collisionFree _ (List.mem_cons_of_mem _ (List.mem_map_of_mem member)) _
    List.mem_cons_self ?_
  exact hexEncode_injective hashed

theorem distinct_of_nodup (events : List KeyEvent) (rawKey : String)
    (keys : ((creations events).map Creation.rawKey).Nodup)
    (ids : ((creations events).map Creation.id).Nodup)
    (collisionFree : CollisionFree (keysUsed events rawKey)) : Distinct events := by
  have both := (List.pairwise_map.mp keys).and (List.pairwise_map.mp ids)
  refine both.imp_of_mem fun {first second} memberFirst memberSecond different => ?_
  refine ⟨fun hashed => different.1 ?_, different.2⟩
  exact collisionFree _ (List.mem_cons_of_mem _ (List.mem_map_of_mem memberFirst)) _
    (List.mem_cons_of_mem _ (List.mem_map_of_mem memberSecond)) (hexEncode_injective hashed)

section Permanence

variable {start : Time} {past more : List KeyEvent} {before after : MemoryAPIKeyStore}
  (recordedBefore : Recorded start past before)
  (recordedAfter : Recorded start (past ++ more) after) (earlier now : Time)
  (creation : Creation) (member : creation ∈ creations past)

include recordedBefore recordedAfter member

omit recordedBefore recordedAfter in
theorem creations_append_left : creation ∈ creations (past ++ more) := by
  rw [creations, List.filterMap_append]
  exact List.mem_append_left _ member

/-- A revoked key stays revoked. -/
theorem revoked_stays (refused : before.validateKey earlier creation.rawKey = .error .revoked) :
    after.validateKey now creation.rawKey = .error .revoked := by
  have revoked := (validateKey_revoked_iff recordedBefore earlier creation member).mp refused
  refine (validateKey_revoked_iff recordedAfter now creation
    (creations_append_left creation member)).mpr ?_
  exact occurs_append keyStep _ _ past more revoked

/-- An expired key stays expired, unless it is also revoked. -/
theorem expired_stays (order : earlier.nanoseconds ≤ now.nanoseconds)
    (refused : before.validateKey earlier creation.rawKey = .error .expired) :
    after.validateKey now creation.rawKey = .error .expired ∨
      after.validateKey now creation.rawKey = .error .revoked := by
  have later : creation ∈ creations (past ++ more) := creations_append_left creation member
  obtain ⟨_, passed⟩ := (validateKey_expired_iff recordedBefore earlier creation member).mp refused
  have stillPassed : ¬creation.Alive now := by
    refine fun alive => passed (alive.imp_right fun within => ?_)
    exact order.trans within
  by_cases revoked : Revoked start (past ++ more) creation.id
  · exact Or.inr ((validateKey_revoked_iff recordedAfter now creation later).mpr revoked)
  · exact Or.inl
      ((validateKey_expired_iff recordedAfter now creation later).mpr ⟨revoked, stillPassed⟩)

end Permanence

/-- A key validates exactly when it was created, its identifier was not revoked and its time has not
passed, and then with its own principal. A revoked key is reported as revoked; revocation and expiry
are for good; and the revocation of one key does not change the validation of another. -/
theorem key_lifecycle (start : Time) (events : List KeyEvent) (state : KeyState)
    (run : exec keyStep (newMemoryAPIKeyStore start) events = some state) (rawKey : String)
    (keys : ((creations events).map Creation.rawKey).Nodup)
    (ids : ((creations events).map Creation.id).Nodup)
    (collisionFree : CollisionFree (keysUsed events rawKey)) (now : Time) :
    ((∃ principal, state.store.validateKey now rawKey = .ok principal) ↔
        ∃ creation ∈ creations events, creation.rawKey = rawKey ∧
          ¬Revoked start events creation.id ∧ creation.Alive now) ∧
      (∀ principal, state.store.validateKey now rawKey = .ok principal →
        ∃ creation ∈ creations events, creation.rawKey = rawKey ∧
          principal.subject = creation.request.ownerID ∧
          principal.clientID = creation.request.clientID ∧
          principal.scopes = creation.request.scopes ∧
          principal.roles = creation.request.roles) ∧
      (∀ creation ∈ creations events, creation.rawKey = rawKey →
        Revoked start events creation.id →
          state.store.validateKey now rawKey = .error .revoked) ∧
      (∀ before after middle, events = before ++ after →
        exec keyStep (newMemoryAPIKeyStore start) before = some middle →
        ∀ earlier : Time, earlier.nanoseconds ≤ now.nanoseconds →
          (middle.store.validateKey earlier rawKey = .error .revoked →
              state.store.validateKey now rawKey = .error .revoked) ∧
            (middle.store.validateKey earlier rawKey = .error .expired →
              state.store.validateKey now rawKey = .error .expired ∨
                state.store.validateKey now rawKey = .error .revoked)) ∧
      (∀ creation ∈ creations events, creation.rawKey = rawKey → ∀ id, creation.id ≠ id →
        (state.store.revokeKey id).2.validateKey now rawKey =
          state.store.validateKey now rawKey) := by
  have distinct := distinct_of_nodup events rawKey keys ids collisionFree
  have recorded := run_recorded start events state run distinct
  have unique := rawKey_of_hash events rawKey collisionFree
  have ok_cases : ∀ principal, state.store.validateKey now rawKey = .ok principal →
      ∃ creation ∈ creations events, creation.rawKey = rawKey ∧
        ¬Revoked start events creation.id ∧ creation.Alive now ∧
          creation.principal = principal := by
    intro principal valid
    rcases validateKey_cases recorded now rawKey unique with missing | ⟨creation, member, rfl⟩
    · rw [missing] at valid
      cases valid
    · exact ⟨creation, member, rfl,
        (validateKey_ok_iff recorded now creation member principal).mp valid⟩
  refine ⟨⟨?_, ?_⟩, ?_, ?_, ?_, ?_⟩
  · rintro ⟨principal, valid⟩
    obtain ⟨creation, member, isKey, unrevoked, alive, _⟩ := ok_cases principal valid
    exact ⟨creation, member, isKey, unrevoked, alive⟩
  · rintro ⟨creation, member, rfl, unrevoked, alive⟩
    exact ⟨creation.principal,
      (validateKey_ok_iff recorded now creation member _).mpr ⟨unrevoked, alive, rfl⟩⟩
  · intro principal valid
    obtain ⟨creation, member, isKey, _, _, rfl⟩ := ok_cases principal valid
    exact ⟨creation, member, isKey, rfl, rfl, rfl, rfl⟩
  · rintro creation member rfl revoked
    exact (validateKey_revoked_iff recorded now creation member).mpr revoked
  · rintro before after middle rfl ran earlier order
    have distinctBefore : Distinct before := by
      rw [Distinct, creations, List.filterMap_append, List.pairwise_append] at distinct
      exact distinct.1
    have recordedBefore := run_recorded start before middle ran distinctBefore
    have uniqueBefore (creation : Creation) (member : creation ∈ creations before) :=
      unique creation (creations_append_left creation member)
    rcases validateKey_cases recordedBefore earlier rawKey uniqueBefore with
      missing | ⟨creation, member, rfl⟩
    · rw [missing]
      constructor
      · intro other
        cases other
      · intro other
        cases other
    · exact ⟨revoked_stays recordedBefore recorded earlier now creation member,
        expired_stays recordedBefore recorded earlier now creation member order⟩
  · rintro creation member rfl id other
    exact validateKey_revoke_other recorded now creation member id other

/-- Two keys, and the revocation of the first. -/
def revokedWithinTheHour : List KeyEvent :=
  [⟨⟨0⟩, .createKey ⟨"alice", "cli", "laptop", ["read"], [], 3600⟩ (.ok [1]) [2]⟩,
    ⟨⟨5⟩, .createKey ⟨"bob", "cli", "desktop", ["read"], [], 0⟩ (.ok [3]) [4]⟩,
    ⟨⟨10⟩, .revokeKey "key_02"⟩]

/-- The first key is refused, and the second one is valid. -/
theorem revokedWithinTheHour_refused :
    ∃ state, exec keyStep (newMemoryAPIKeyStore ⟨0⟩) revokedWithinTheHour = some state ∧
      ((creations revokedWithinTheHour).map Creation.rawKey).Nodup ∧
      ((creations revokedWithinTheHour).map Creation.id).Nodup ∧
      CollisionFree (keysUsed revokedWithinTheHour "ak_live_01") ∧
      state.store.validateKey ⟨20⟩ "ak_live_01" = .error .revoked ∧
      ∃ principal, state.store.validateKey ⟨20⟩ "ak_live_03" = .ok principal := by
  have keys : ((creations revokedWithinTheHour).map Creation.rawKey).Nodup := by decide
  have ids : ((creations revokedWithinTheHour).map Creation.id).Nodup := by decide
  have created : (creations revokedWithinTheHour).map Creation.rawKey =
      ["ak_live_01", "ak_live_03"] := by decide
  have apart : Sha256.sum (textBytes "ak_live_01") ≠ Sha256.sum (textBytes "ak_live_03") := by
    decide +kernel
  have collisionFree (rawKey : String) (used : rawKey ∈ ["ak_live_01", "ak_live_03"]) :
      CollisionFree (keysUsed revokedWithinTheHour rawKey) := by
    have among : ∀ key ∈ keysUsed revokedWithinTheHour rawKey,
        key = "ak_live_01" ∨ key = "ak_live_03" := by
      rw [keysUsed, created]
      simpa using used
    intro first isFirst second isSecond same
    rcases among first isFirst with rfl | rfl <;> rcases among second isSecond with rfl | rfl
    · rfl
    · exact absurd same apart
    · exact absurd same.symm apart
    · rfl
  have life (rawKey : String) (used : rawKey ∈ ["ak_live_01", "ak_live_03"]) :=
    key_lifecycle ⟨0⟩ revokedWithinTheHour _ rfl rawKey keys ids (collisionFree rawKey used) ⟨20⟩
  refine ⟨_, rfl, keys, ids, collisionFree _ (by simp), ?_, ?_⟩
  · refine (life "ak_live_01" (by simp)).2.2.1 _ List.mem_cons_self (by decide) ?_
    exact ⟨[_, _], _, [], _, rfl, rfl, congrArg KeyCall.revokeKey (by decide), rfl⟩
  · refine (life "ak_live_03" (by simp)).1.mpr
      ⟨_, List.mem_cons_of_mem _ List.mem_cons_self, by decide, ?_, Or.inl rfl⟩
    rintro ⟨before, event, after, _, split, _, revokes, _⟩
    have member : event ∈ revokedWithinTheHour := split ▸ List.mem_append_right _ List.mem_cons_self
    have other : ∀ event ∈ revokedWithinTheHour, event.call ≠ .revokeKey "key_04" := by
      simp [revokedWithinTheHour]
    exact other event member (revokes.trans (congrArg KeyCall.revokeKey (by decide)))

end SharedGo.Authn
