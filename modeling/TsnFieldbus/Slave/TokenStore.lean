import TsnFieldbus.Foundations.ExpiringMap
import TsnFieldbus.Common.Security

/-!
# Token Store

`token_store.rs`: tokens are issued for the pre-shared key, kept as hashes with an expiry
instant, and validated by their hash. SHA-256 is a third-party primitive and a parameter;
instants and durations are numbers of nanoseconds. What a call reads from the clock and from
the random source is an argument of the call.

- `holds_run`: the store against the list of all tokens issued so far.
- `token_valid_iff_issued_and_unexpired`: which tokens are valid when, over any run.
-/

namespace TsnFieldbus

open Foundations

/-- SHA-256 of a byte string. -/
abbrev Sha256 := List UInt8 → ByteArray8 32

/-- A 256-bit pre-shared key used to authenticate token requests. -/
structure PreSharedKey where
  bytes : ByteArray8 32
deriving DecidableEq

/-- `PreSharedKey::from_bytes`. -/
def PreSharedKey.fromBytes (bytes : List UInt8) : Option PreSharedKey :=
  if h : bytes.length = 32 then some ⟨⟨bytes, h⟩⟩ else none

/-! ## Tokens -/

/-- The characters of the URL-safe base64 alphabet. -/
def base64Char (sextet : ℕ) : Char :=
  ("ABCDEFGHIJKLMNOPQRSTUVWXYZabcdefghijklmnopqrstuvwxyz0123456789-_".toList).getD sextet 'A'

/-- `URL_SAFE_NO_PAD.encode`. -/
def urlSafeNoPad : List UInt8 → List Char
  | a :: b :: c :: rest =>
    let n := a.toNat * 65536 + b.toNat * 256 + c.toNat
    base64Char (n / 262144) :: base64Char (n / 4096 % 64) :: base64Char (n / 64 % 64) ::
      base64Char (n % 64) :: urlSafeNoPad rest
  | [a, b] =>
    let n := a.toNat * 1024 + b.toNat * 4
    [base64Char (n / 4096), base64Char (n / 64 % 64), base64Char (n % 64)]
  | [a] => [base64Char (a.toNat / 4), base64Char (a.toNat % 4 * 16)]
  | [] => []

/-- What `generate_token` draws: random bytes and the system time in nanoseconds. -/
structure TokenSeed where
  random : ByteArray8 32
  timestamp : ℕ
deriving DecidableEq

/-- `generate_token`. -/
def generateToken (seed : TokenSeed) : String :=
  String.ofList (urlSafeNoPad seed.random.toList ++ '.' :: Nat.toDigits 16 seed.timestamp)

/-- `hash_token`. -/
def hashToken (sha256 : Sha256) (token : String) : ByteArray8 32 :=
  sha256 token.toUTF8.data.toList

/-! ## The store -/

/-- A token hash with its expiry. -/
structure TokenRecord where
  tokenHash : ByteArray8 32
  expiresAt : Instant

/-- Expected pre-shared key, and hashes and expiries of the active tokens. -/
structure TokenStore where
  expectedSharedKey : PreSharedKey
  tokens : HashMap (ByteArray8 32) Instant

namespace TokenStore

variable (sha256 : Sha256)

/-- `TokenStore::new`. -/
def new (expectedSharedKey : PreSharedKey) : TokenStore :=
  { expectedSharedKey := expectedSharedKey
    tokens := ∅ }

/-- `is_shared_key_valid`. -/
def isSharedKeyValid (store : TokenStore) (sharedKey : List UInt8) : Bool :=
  match PreSharedKey.fromBytes sharedKey with
  | some key => key.bytes = store.expectedSharedKey.bytes
  | none => false

/-- `prune_expired_locked`. -/
def pruneExpiredLocked (tokens : HashMap (ByteArray8 32) Instant) (now : Instant) :
    HashMap (ByteArray8 32) Instant :=
  ExpiringMap.prune tokens now

/-- `insert_token`; `now` is read under the lock. -/
def insertToken (store : TokenStore) (record : TokenRecord) (now : Instant) : TokenStore :=
  { store with
    tokens := (pruneExpiredLocked store.tokens now).insert record.tokenHash record.expiresAt }

/-- `issue_token`. The clock is read for the expiry, and again by `insert_token`. -/
def issueToken (store : TokenStore) (sharedKey : List UInt8) (ttl : ℕ) (seed : TokenSeed)
    (now insertedAt : Instant) : Except StatusCode String × TokenStore :=
  if store.isSharedKeyValid sharedKey then
    let token := generateToken seed
    let record := { tokenHash := hashToken sha256 token, expiresAt := now + ttl }
    (.ok token, store.insertToken record insertedAt)
  else (.error .errAuthFailed, store)

/-- `validate_token`. -/
def validateToken (store : TokenStore) (token : String) (now : Instant) : Bool × TokenStore :=
  let tokenHash := hashToken sha256 token
  let tokens := pruneExpiredLocked store.tokens now
  match tokens.lookup tokenHash with
  | some expiresAt =>
    if expiresAt > now then (true, { store with tokens := tokens })
    else (false, { store with tokens := tokens.erase tokenHash })
  | none => (false, { store with tokens := tokens })

end TokenStore

/-! ## Runs -/

/-- A call of the store with everything it reads. -/
inductive TokenCall where
  | issueToken (sharedKey : List UInt8) (ttl : ℕ) (seed : TokenSeed) (now insertedAt : Instant)
  | validateToken (token : String) (now : Instant)

namespace TokenCall

/-- The clock readings of a call, in order. -/
def readings : TokenCall → List Instant
  | .issueToken _ _ _ now insertedAt => [now, insertedAt]
  | .validateToken _ now => [now]

/-- The token a call is about. -/
def token : TokenCall → String
  | .issueToken _ _ seed _ _ => generateToken seed
  | .validateToken token _ => token

/-- The seed a call draws when it presents the key. -/
def drawnSeed (key : PreSharedKey) : TokenCall → Option TokenSeed
  | .issueToken sharedKey _ seed _ _ => if sharedKey = key.bytes.toList then some seed else none
  | .validateToken _ _ => none

/-- The token a call is granted, with its expiry, when it presents the key. -/
def grant (sha256 : Sha256) (key : PreSharedKey) :
    TokenCall → Option (ByteArray8 32 × Instant)
  | .issueToken sharedKey ttl seed now _ =>
    if sharedKey = key.bytes.toList then some (hashToken sha256 (generateToken seed), now + ttl)
    else none
  | .validateToken _ _ => none

end TokenCall

namespace TokenStore

variable (sha256 : Sha256)

/-- The store after a call. -/
def call (store : TokenStore) : TokenCall → TokenStore
  | .issueToken sharedKey ttl seed now insertedAt =>
    (store.issueToken sha256 sharedKey ttl seed now insertedAt).2
  | .validateToken token now => (store.validateToken sha256 token now).2

/-- The store after a sequence of calls. -/
def run (store : TokenStore) (calls : List TokenCall) : TokenStore :=
  calls.foldl (call sha256) store

/-! ## What the calls do -/

theorem isSharedKeyValid_iff (store : TokenStore) (sharedKey : List UInt8) :
    store.isSharedKeyValid sharedKey = true ↔
      sharedKey = store.expectedSharedKey.bytes.toList := by
  unfold isSharedKeyValid PreSharedKey.fromBytes
  by_cases hlen : sharedKey.length = 32
  · simp only [dif_pos hlen, decide_eq_true_eq]
    exact ⟨fun h => congrArg List.Vector.toList h, fun h => List.Vector.eq _ _ h⟩
  · simp only [dif_neg hlen, Bool.false_eq_true, false_iff]
    intro hkey
    exact hlen (hkey ▸ List.Vector.toList_length _)

/-- The call behind the branch that removes an expired token never finds one: it has just
been pruned. -/
theorem validateToken_eq (store : TokenStore) (token : String) (now : Instant) :
    store.validateToken sha256 token now =
      (((ExpiringMap.prune store.tokens now).lookup (hashToken sha256 token)).isSome,
        { store with tokens := ExpiringMap.prune store.tokens now }) := by
  unfold validateToken pruneExpiredLocked
  dsimp only
  cases hlookup : (ExpiringMap.prune store.tokens now).lookup (hashToken sha256 token) with
  | none => rfl
  | some expiresAt =>
    have hlt : expiresAt > now := (ExpiringMap.lookup_prune.mp hlookup).2
    simp only [if_pos hlt, Option.isSome_some]

@[simp] theorem expectedSharedKey_call (store : TokenStore) (c : TokenCall) :
    (store.call sha256 c).expectedSharedKey = store.expectedSharedKey := by
  cases c with
  | issueToken sharedKey ttl seed now insertedAt =>
    unfold call issueToken
    dsimp only
    split <;> rfl
  | validateToken token now =>
    unfold call
    dsimp only
    rw [validateToken_eq]

theorem run_append_singleton (store : TokenStore) (calls : List TokenCall) (c : TokenCall) :
    store.run sha256 (calls ++ [c]) = (store.run sha256 calls).call sha256 c := by
  rw [run, List.foldl_append]
  rfl

theorem expectedSharedKey_run (store : TokenStore) (calls : List TokenCall) :
    (store.run sha256 calls).expectedSharedKey = store.expectedSharedKey := by
  induction calls using List.reverseRecOn with
  | nil => rfl
  | append_singleton calls c ih => rw [run_append_singleton, expectedSharedKey_call, ih]

/-- A call with the key is granted its token, any other is refused and changes nothing. -/
theorem issueToken_cases (store : TokenStore) (sharedKey : List UInt8) (ttl : ℕ)
    (seed : TokenSeed) (now insertedAt : Instant) :
    (sharedKey = store.expectedSharedKey.bytes.toList ∧
      store.issueToken sha256 sharedKey ttl seed now insertedAt =
        (.ok (generateToken seed), { store with
          tokens := (ExpiringMap.prune store.tokens insertedAt).insert
            (hashToken sha256 (generateToken seed)) (now + ttl) })) ∨
    (sharedKey ≠ store.expectedSharedKey.bytes.toList ∧
      store.issueToken sha256 sharedKey ttl seed now insertedAt =
        (.error .errAuthFailed, store)) := by
  by_cases hkey : sharedKey = store.expectedSharedKey.bytes.toList
  · left
    refine ⟨hkey, ?_⟩
    rw [issueToken, if_pos ((isSharedKeyValid_iff store sharedKey).mpr hkey)]
    rfl
  · right
    refine ⟨hkey, ?_⟩
    rw [issueToken, if_neg (mt (isSharedKeyValid_iff store sharedKey).mp hkey)]

/-! ## The store and what has been issued -/

/-- What a run of calls is assumed to be: the clock never goes back, no two granted tokens are
equal, and SHA-256 does not confuse the tokens of the run. -/
structure OrderlyRun (key : PreSharedKey) (calls : List TokenCall) : Prop where
  clock : (calls.flatMap TokenCall.readings).Pairwise (· ≤ ·)
  fresh : ((calls.filterMap (TokenCall.drawnSeed key)).map generateToken).Nodup
  injective : Set.InjOn (hashToken sha256) {token | token ∈ calls.map TokenCall.token}

variable {sha256} {key : PreSharedKey} {calls before after : List TokenCall} {c : TokenCall}

/-- Every beginning of such a run is one. -/
theorem OrderlyRun.of_append (h : OrderlyRun sha256 key (before ++ after)) :
    OrderlyRun sha256 key before := by
  refine ⟨?_, ?_, ?_⟩
  · have hclock := h.clock
    rw [List.flatMap_append, List.pairwise_append] at hclock
    exact hclock.1
  · have hfresh := h.fresh
    rw [List.filterMap_append, List.map_append, List.nodup_append] at hfresh
    exact hfresh.1
  · refine h.injective.mono ?_
    intro token hmem
    rw [Set.mem_ofPred_eq, List.map_append]
    exact List.mem_append_left _ hmem

/-- Earlier calls read the clock earlier. -/
theorem OrderlyRun.readings_le (h : OrderlyRun sha256 key (before ++ [c])) (late : Instant)
    {early : Instant} (hearly : early ∈ before.flatMap TokenCall.readings)
    (hlate : late ∈ c.readings) : early ≤ late := by
  have hclock := h.clock
  rw [List.flatMap_append, List.pairwise_append] at hclock
  refine hclock.2.2 early hearly late ?_
  rw [List.flatMap_singleton]
  exact hlate

/-- The grants of a run. -/
theorem mem_grants {hash : ByteArray8 32} {expiry : Instant} :
    (hash, expiry) ∈ calls.filterMap (TokenCall.grant sha256 key) ↔
      ∃ ttl seed issuedAt insertedAt,
        .issueToken key.bytes.toList ttl seed issuedAt insertedAt ∈ calls ∧
          hashToken sha256 (generateToken seed) = hash ∧ issuedAt + ttl = expiry := by
  rw [List.mem_filterMap]
  constructor
  · rintro ⟨c, hmem, hgrant⟩
    cases c with
    | validateToken token now => cases hgrant
    | issueToken sharedKey ttl seed issuedAt insertedAt =>
      simp only [TokenCall.grant, Option.ite_none_right_eq_some, Option.some.injEq,
        Prod.mk.injEq] at hgrant
      obtain ⟨rfl, hhash, hexpiry⟩ := hgrant
      exact ⟨ttl, seed, issuedAt, insertedAt, hmem, hhash, hexpiry⟩
  · rintro ⟨ttl, seed, issuedAt, insertedAt, hmem, rfl, rfl⟩
    exact ⟨_, hmem, if_pos rfl⟩

/-- The next granted token is not that of an earlier grant. -/
theorem OrderlyRun.fresh_hash {ttl : ℕ} {seed : TokenSeed} {issuedAt insertedAt : Instant}
    (h : OrderlyRun sha256 key
      (before ++ [.issueToken key.bytes.toList ttl seed issuedAt insertedAt])) (old : Instant) :
    (hashToken sha256 (generateToken seed), old) ∉
      before.filterMap (TokenCall.grant sha256 key) := by
  intro hmem
  obtain ⟨ttl', seed', issuedAt', insertedAt', hcall, hhash, -⟩ := mem_grants.mp hmem
  -- equal hashes are hashes of equal tokens
  have htoken : generateToken seed' = generateToken seed := by
    refine h.injective ?_ ?_ hhash
    · rw [Set.mem_ofPred_eq, List.map_append]
      exact List.mem_append_left _ (List.mem_map_of_mem hcall)
    · rw [Set.mem_ofPred_eq, List.map_append]
      exact List.mem_append_right _ (List.mem_singleton_self _)
  -- and granted tokens differ
  have hfresh := h.fresh
  rw [List.filterMap_append, List.map_append, List.nodup_append] at hfresh
  refine hfresh.2.2 (generateToken seed') ?_ (generateToken seed) ?_ htoken
  · exact List.mem_map_of_mem (List.mem_filterMap.mpr ⟨_, hcall, if_pos rfl⟩)
  · simp [TokenCall.drawnSeed]

/-- After every run the store holds the grants of the run, up to those that have expired by
the last call. -/
theorem holds_run (h : OrderlyRun sha256 key calls) {now : Instant}
    (hnow : ∀ reading ∈ calls.flatMap TokenCall.readings, reading ≤ now) :
    ExpiringMap.Holds ((new key).run sha256 calls).tokens
      (calls.filterMap (TokenCall.grant sha256 key)) now := by
  induction calls using List.reverseRecOn generalizing now with
  | nil => exact ExpiringMap.Holds.empty now
  | append_singleton calls c ih =>
    have hkey : ((new key).run sha256 calls).expectedSharedKey = key :=
      expectedSharedKey_run sha256 (new key) calls
    have hlast : ∀ reading ∈ c.readings, reading ≤ now := by
      intro reading hmem
      refine hnow reading ?_
      rw [List.flatMap_append, List.flatMap_singleton]
      exact List.mem_append_right _ hmem
    rw [run_append_singleton, List.filterMap_append]
    cases c with
    | issueToken sharedKey ttl seed issuedAt insertedAt =>
      have hholds := ih h.of_append
        (fun reading hmem => h.readings_le insertedAt hmem (by simp [TokenCall.readings]))
      have hle : insertedAt ≤ now := hlast insertedAt (by simp [TokenCall.readings])
      rcases issueToken_cases sha256 ((new key).run sha256 calls) sharedKey ttl seed issuedAt
        insertedAt with ⟨hvalid, heq⟩ | ⟨hinvalid, heq⟩
      -- a grant goes into the pruned map
      · rw [hkey] at hvalid
        subst hvalid
        have hgrant : [TokenCall.issueToken key.bytes.toList ttl seed issuedAt
            insertedAt].filterMap (TokenCall.grant sha256 key) =
            [(hashToken sha256 (generateToken seed), issuedAt + ttl)] := by
          simp [TokenCall.grant]
        rw [hgrant, call, heq]
        exact (hholds.prune.grant h.fresh_hash _).mono hle
      · rw [hkey] at hinvalid
        have hnone : [TokenCall.issueToken sharedKey ttl seed issuedAt insertedAt].filterMap
            (TokenCall.grant sha256 key) = [] := by
          simp [TokenCall.grant, hinvalid]
        rw [hnone, List.append_nil, call, heq]
        exact hholds.mono hle
    | validateToken token instant =>
      have hholds := ih h.of_append
        (fun reading hmem => h.readings_le instant hmem (by simp [TokenCall.readings]))
      have hnone : [TokenCall.validateToken token instant].filterMap
          (TokenCall.grant sha256 key) = [] := rfl
      rw [hnone, List.append_nil, call, validateToken_eq]
      exact hholds.prune.mono (hlast instant (by simp [TokenCall.readings]))

/-- An issued token is that of a grant, and every grant has issued its token. -/
theorem issueToken_eq_ok_iff {ttl : ℕ} {seed : TokenSeed} {issuedAt insertedAt : Instant}
    {token : String} :
    (((new key).run sha256 before).issueToken sha256 key.bytes.toList ttl seed issuedAt
        insertedAt).1 = .ok token ↔ generateToken seed = token := by
  rcases issueToken_cases sha256 ((new key).run sha256 before) key.bytes.toList ttl seed
    issuedAt insertedAt with ⟨-, heq⟩ | ⟨hinvalid, -⟩
  · rw [heq, Except.ok.injEq]
  · exact absurd (by rw [expectedSharedKey_run]; rfl) hinvalid

/-- What a validation at the end of a run answers. -/
theorem validateToken_iff_issued {token : String} {now : Instant}
    (h : OrderlyRun sha256 key (before ++ [.validateToken token now])) :
    (((new key).run sha256 before).validateToken sha256 token now).1 = true ↔
      ∃ earlier later sharedKey ttl seed issuedAt insertedAt,
        before = earlier ++ .issueToken sharedKey ttl seed issuedAt insertedAt :: later ∧
        (((new key).run sha256 earlier).issueToken sha256 sharedKey ttl seed issuedAt
          insertedAt).1 = .ok token ∧
        sharedKey = key.bytes.toList ∧ now < issuedAt + ttl := by
  have hholds := holds_run h.of_append
    (fun reading hmem => h.readings_le now hmem (by simp [TokenCall.readings]))
  rw [validateToken_eq, Option.isSome_iff_exists]
  simp only [hholds.lookup_prune_iff, mem_grants]
  constructor
  · rintro ⟨expiry, ⟨ttl, seed, issuedAt, insertedAt, hmem, hhash, rfl⟩, hlt⟩
    -- the hash names one token among those of the run
    have htoken : generateToken seed = token := by
      refine h.injective ?_ ?_ hhash
      · rw [Set.mem_ofPred_eq, List.map_append]
        exact List.mem_append_left _ (List.mem_map_of_mem hmem)
      · rw [Set.mem_ofPred_eq, List.map_append]
        exact List.mem_append_right _ (List.mem_singleton_self _)
    obtain ⟨earlier, later, rfl⟩ := List.append_of_mem hmem
    exact ⟨earlier, later, _, ttl, seed, issuedAt, insertedAt, rfl,
      issueToken_eq_ok_iff.mpr htoken, rfl, hlt⟩
  · rintro ⟨earlier, later, sharedKey, ttl, seed, issuedAt, insertedAt, rfl, hok, rfl, hlt⟩
    have htoken : generateToken seed = token := issueToken_eq_ok_iff.mp hok
    exact ⟨issuedAt + ttl, ⟨ttl, seed, issuedAt, insertedAt, by simp, by rw [htoken], rfl⟩, hlt⟩

/-- A refused call changes nothing. -/
theorem issueToken_of_error {store : TokenStore} {sharedKey : List UInt8} {ttl : ℕ}
    {seed : TokenSeed} {now insertedAt : Instant} {code : StatusCode}
    (h : (store.issueToken sha256 sharedKey ttl seed now insertedAt).1 = .error code) :
    (store.issueToken sha256 sharedKey ttl seed now insertedAt).2 = store := by
  rcases issueToken_cases sha256 store sharedKey ttl seed now insertedAt with ⟨-, heq⟩ | ⟨-, heq⟩
  · rw [heq] at h
    cases h
  · rw [heq]

/-- A call keeps every entry that has not expired when it reads the clock. -/
theorem lookup_call_of_unexpired (h : OrderlyRun sha256 key (before ++ [c]))
    {hash : ByteArray8 32} {expiry : Instant}
    (hlookup : ((new key).run sha256 before).tokens.lookup hash = some expiry)
    (hunexpired : ∀ reading ∈ c.readings, reading < expiry) :
    (((new key).run sha256 before).call sha256 c).tokens.lookup hash = some expiry := by
  cases c with
  | issueToken sharedKey ttl seed issuedAt insertedAt =>
    have hlt : insertedAt < expiry := hunexpired insertedAt (by simp [TokenCall.readings])
    rcases issueToken_cases sha256 ((new key).run sha256 before) sharedKey ttl seed issuedAt
      insertedAt with ⟨hvalid, heq⟩ | ⟨-, heq⟩
    · rw [expectedSharedKey_run] at hvalid
      subst hvalid
      -- the new token does not overwrite this one
      have hgranted := (holds_run h.of_append
        (fun reading hmem => h.readings_le insertedAt hmem
          (by simp [TokenCall.readings]))).granted hash expiry hlookup
      have hne : hash ≠ hashToken sha256 (generateToken seed) := by
        intro hsame
        exact h.fresh_hash expiry (hsame ▸ hgranted)
      rw [call, heq]
      exact (AList.lookup_insert_ne hne).trans (ExpiringMap.lookup_prune.mpr ⟨hlookup, hlt⟩)
    · rw [call, heq]
      exact hlookup
  | validateToken token now =>
    have hlt : now < expiry := hunexpired now (by simp [TokenCall.readings])
    rw [call, validateToken_eq]
    exact ExpiringMap.lookup_prune.mpr ⟨hlookup, hlt⟩

/-- **A token is valid from its issue to its expiry**, and no operation removes it before. In
every run a validation succeeds if and only if the token was issued for the key earlier in the
run and has not expired; a refused call changes nothing. -/
theorem token_valid_iff_issued_and_unexpired (h : OrderlyRun sha256 key calls) :
    (∀ before token now after, calls = before ++ .validateToken token now :: after →
      ((((new key).run sha256 before).validateToken sha256 token now).1 = true ↔
        ∃ earlier later sharedKey ttl seed issuedAt insertedAt,
          before = earlier ++ .issueToken sharedKey ttl seed issuedAt insertedAt :: later ∧
          (((new key).run sha256 earlier).issueToken sha256 sharedKey ttl seed issuedAt
            insertedAt).1 = .ok token ∧
          sharedKey = key.bytes.toList ∧ now < issuedAt + ttl)) ∧
    (∀ (store : TokenStore) sharedKey ttl seed now insertedAt code,
      (store.issueToken sha256 sharedKey ttl seed now insertedAt).1 = .error code →
      (store.issueToken sha256 sharedKey ttl seed now insertedAt).2 = store) ∧
    (∀ before c after, calls = before ++ c :: after → ∀ hash expiry,
      ((new key).run sha256 before).tokens.lookup hash = some expiry →
      (∀ reading ∈ c.readings, reading < expiry) →
      (((new key).run sha256 before).call sha256 c).tokens.lookup hash = some expiry) := by
  refine ⟨?_, ?_, ?_⟩
  · intro before token now after hcalls
    rw [hcalls, List.append_cons] at h
    exact validateToken_iff_issued h.of_append
  · intro store sharedKey ttl seed now insertedAt code hrefused
    exact issueToken_of_error hrefused
  · intro before c after hcalls hash expiry hlookup hunexpired
    rw [hcalls, List.append_cons] at h
    exact lookup_call_of_unexpired h.of_append hlookup hunexpired

/-- Random bytes that begin with the given one. -/
def seedOf (first : UInt8) : TokenSeed :=
  { random := ⟨first :: List.replicate 31 0, rfl⟩
    timestamp := 1700000000 }

/-- Two tokens with overlapping lives, the second for the longer time. -/
def overlappingTokens : List TokenCall :=
  [.issueToken zeroSecret.toList 10 (seedOf 1) 100 101,
    .issueToken zeroSecret.toList 50 (seedOf 2) 104 105,
    .validateToken (generateToken (seedOf 2)) 112,
    .validateToken (generateToken (seedOf 1)) 112]

theorem token_valid_iff_issued_and_unexpired_overlapping :
    (((new ⟨zeroSecret⟩).run (checksumHash zeroSecret) (overlappingTokens.take 2)).validateToken
      (checksumHash zeroSecret) (generateToken (seedOf 2)) 112).1 = true := by
  have hne : hashToken (checksumHash zeroSecret) (generateToken (seedOf 1)) ≠
      hashToken (checksumHash zeroSecret) (generateToken (seedOf 2)) := by decide +kernel
  have hrun : OrderlyRun (checksumHash zeroSecret) ⟨zeroSecret⟩ overlappingTokens := by
    refine ⟨by decide, by decide +kernel, ?_⟩
    intro token htoken other hother hhash
    simp only [overlappingTokens, List.map_cons, List.map_nil, TokenCall.token, List.mem_cons,
      List.not_mem_nil, or_false, Set.mem_ofPred_eq] at htoken hother
    rcases htoken with rfl | rfl | rfl | rfl <;> rcases hother with rfl | rfl | rfl | rfl <;>
      first
        | rfl
        | exact absurd hhash hne
        | exact absurd hhash.symm hne
  exact ((token_valid_iff_issued_and_unexpired hrun).1 (overlappingTokens.take 2)
    (generateToken (seedOf 2)) 112 (overlappingTokens.drop 3) rfl).mpr
    ⟨overlappingTokens.take 1, [], zeroSecret.toList, 50, seedOf 2, 104, 105, rfl,
      by decide +kernel, rfl, by decide⟩

example : generateToken (seedOf 1) = "AQAAAAAAAAAAAAAAAAAAAAAAAAAAAAAAAAAAAAAAAAA.6553f100" := by
  decide +kernel

end TokenStore

end TsnFieldbus
