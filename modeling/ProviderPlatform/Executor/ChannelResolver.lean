import ProviderPlatform.EventWatcher.Host

/-! # Resolving a channel

`resolveChannelContext` reads one ACTIVE membership of the PP, whichever the
database returns first, and takes the client of the channel from a cache that
the whole process shares. So it is right for a channel exactly if that
membership lists it and no client of another council is cached under it. -/
namespace ProviderPlatform
open Store

/-! ## The client cache -/

/-- The client of a channel contract. -/
structure PrivacyChannel where
  channelContractId : ContractId
  channelAuthId : ContractId
  assetContractId : ContractId
  deriving DecidableEq

/-- The clients by their channel, the oldest first. -/
abbrev ChannelCache := Table PrivacyChannel.channelContractId

def maxCacheSize : Nat := 100

/-- Delete the oldest entry. -/
def ChannelCache.evictOldest (cache : ChannelCache) : ChannelCache :=
  ⟨cache.rows.tail, cache.nodup.sublist ((List.tail_sublist _).map _)⟩

/-- Get or create a client for a specific channel, cached by its id alone. -/
def getChannelClient (channelContractId channelAuthId assetContractId : ContractId)
    (cache : ChannelCache) : PrivacyChannel × ChannelCache :=
  match cache.find channelContractId with
  | some cached => (cached, cache)
  | none =>
    let room := if cache.rows.length ≥ maxCacheSize then cache.evictOldest else cache
    let client := ⟨channelContractId, channelAuthId, assetContractId⟩
    (client, room.upsert client)

theorem getChannelClient_cached {channel authId assetId : ContractId} {cache : ChannelCache}
    {client : PrivacyChannel} (h : cache.find channel = some client) :
    getChannelClient channel authId assetId cache = (client, cache) := by
  simp only [getChannelClient, h]

theorem getChannelClient_built {channel authId assetId : ContractId} {cache : ChannelCache}
    (h : cache.find channel = none) :
    (getChannelClient channel authId assetId cache).1 = ⟨channel, authId, assetId⟩ := by
  simp only [getChannelClient, h]

/-! ## Memberships and their configuration -/

/-- A row of the PPs, with its key in encrypted form. -/
structure PpAccount extends PaymentProvider where
  encryptedSk : String
  isActive : Bool
  deriving DecidableEq

/-- A channel as a council lists it. -/
structure ConfigChannel where
  channelContractId : ContractId
  assetContractId : Option ContractId
  deriving DecidableEq

structure ConfigCouncil where
  channelAuthId : Option ContractId
  deriving DecidableEq

/-- What a `configJson` is parsed to. -/
structure CouncilConfig where
  council : Option ConfigCouncil
  channels : Option (List ConfigChannel)
  deriving DecidableEq

/-- `JSON.parse`, the decryption of a stored key and the key pair of a secret;
each may throw. -/
structure ResolverEnv where
  parseConfig : String → Option CouncilConfig
  decryptSk : String → Except Err String
  fromSecret : String → Except Err PublicKey
  networkFee : Nat

/-- The rows that the resolver reads. -/
structure Fleet where
  paymentProviders : Table fun row : PpAccount => row.publicKey
  councilMemberships : Table CouncilMembership.id

namespace Fleet

/-- The ACTIVE memberships of a PP, in the order of a scan. -/
def activeForPp (fleet : Fleet) (ppPublicKey : PublicKey) : List CouncilMembership :=
  fleet.councilMemberships.select fun row =>
    row.ppPublicKey == ppPublicKey && row.status == .active && row.deletedAt.isNone

/-- The first of them. -/
def getActiveForPp (fleet : Fleet) (ppPublicKey : PublicKey) : Option CouncilMembership :=
  (fleet.activeForPp ppPublicKey).head?

end Fleet

structure TransactionConfig where
  source : PublicKey
  fee : Nat
  timeout : Nat
  signers : List PublicKey
  deriving DecidableEq

/-- The context in which a transaction is built. -/
structure ResolvedContext where
  signer : PublicKey
  ppSecretKey : String
  channelClient : PrivacyChannel
  txConfig : TransactionConfig
  deriving DecidableEq

/-! ## The resolver -/

/-- The signer of the PP and the client of the channel. -/
def resolveChannelContext (env : ResolverEnv) (fleet : Fleet) (channelContractId : ContractId)
    (ppPublicKey : PublicKey) (cache : ChannelCache) :
    Except Err (ResolvedContext × ChannelCache) :=
  if ppPublicKey = "" then
    .error (.error "resolveChannelContext: ppPublicKey is required")
  else match (fleet.paymentProviders.find ppPublicKey).filter (·.isActive) with
  | none =>
    .error (.error ("resolveChannelContext: PP " ++ ppPublicKey ++ " not found or inactive"))
  | some pp => match fleet.getActiveForPp ppPublicKey with
    | none =>
      .error (.error ("resolveChannelContext: PP " ++ ppPublicKey ++ " has no active membership"))
    | some membership => match membership.configJson.filter (· != "") with
      | none =>
        .error (.error ("resolveChannelContext: PP " ++ ppPublicKey ++ " has no active membership"))
      | some configJson => match env.parseConfig configJson with
        | none =>
          .error (.error ("resolveChannelContext: PP " ++ ppPublicKey ++
            " has malformed configJson"))
        | some config =>
          match (config.channels.getD []).find? (·.channelContractId == channelContractId) with
          | none =>
            .error (.error ("resolveChannelContext: PP " ++ ppPublicKey ++
              " is not a member of channel " ++ channelContractId))
          | some channel => do
            let channelAuthId :=
              (config.council.bind (·.channelAuthId)).getD membership.channelAuthId
            let sk ← env.decryptSk pp.encryptedSk
            if sk.toList.head? ≠ some 'S' then
              .error (.error ("Decrypted secret key for PP " ++ pp.publicKey ++
                " does not start with 'S' — the stored key may be corrupt or the decryption " ++
                "passphrase may have changed"))
            else do
              let publicKey ← env.fromSecret sk
              let client := getChannelClient channelContractId channelAuthId
                (channel.assetContractId.getD "") cache
              pure (⟨publicKey, sk, client.1, ⟨publicKey, env.networkFee, 30, [publicKey]⟩⟩,
                client.2)

/-! ## What is right -/

/-- The ids of a client: its council's contract and its asset's. -/
def PrivacyChannel.ids (client : PrivacyChannel) : ContractId × ContractId :=
  (client.channelAuthId, client.assetContractId)

/-- The configuration of a membership lists the channel, with these ids. -/
def CouncilMembership.Lists (membership : CouncilMembership) (env : ResolverEnv)
    (channelContractId : ContractId) (ids : ContractId × ContractId) : Prop :=
  ∃ configJson config channel, membership.configJson.filter (· != "") = some configJson ∧
    env.parseConfig configJson = some config ∧ channel ∈ config.channels.getD [] ∧
    channel.channelContractId = channelContractId ∧
    ids = ((config.council.bind (·.channelAuthId)).getD membership.channelAuthId,
      channel.assetContractId.getD "")

namespace Fleet
variable (fleet : Fleet) (env : ResolverEnv) (ppPublicKey : PublicKey)
  (channelContractId : ContractId)

/-- An ACTIVE membership of the PP lists the channel, with these ids. -/
def Lists (ids : ContractId × ContractId) : Prop :=
  ∃ membership ∈ fleet.activeForPp ppPublicKey, membership.Lists env channelContractId ids

/-- The PP is active, and its key can be decrypted. -/
structure Serving : Prop where
  named : ppPublicKey ≠ ""
  active : ∃ pp, fleet.paymentProviders.find ppPublicKey = some pp ∧ pp.isActive = true ∧
    ∃ sk publicKey, env.decryptSk pp.encryptedSk = .ok sk ∧ sk.toList.head? = some 'S' ∧
      env.fromSecret sk = .ok publicKey

/-- A channel that an ACTIVE membership lists is resolved with the ids of such
a membership, and no other channel is. -/
structure ResolvesRight (cache : ChannelCache) : Prop where
  listed : (∃ ids, fleet.Lists env ppPublicKey channelContractId ids) →
    ∃ ctx cache', resolveChannelContext env fleet channelContractId ppPublicKey cache =
        .ok (ctx, cache') ∧
      fleet.Lists env ppPublicKey channelContractId ctx.channelClient.ids
  unlisted : (¬ ∃ ids, fleet.Lists env ppPublicKey channelContractId ids) →
    ∃ e, resolveChannelContext env fleet channelContractId ppPublicKey cache = .error e

end Fleet

section Resolve
variable {env : ResolverEnv} {fleet : Fleet} {ppPublicKey : PublicKey}
  {channelContractId : ContractId} (cache : ChannelCache)

/-- A membership that does not list the channel resolves to an error. -/
theorem resolve_of_not_lists
    (h : ∀ membership, fleet.getActiveForPp ppPublicKey = some membership →
      ∀ ids, ¬ membership.Lists env channelContractId ids) :
    ∃ e, resolveChannelContext env fleet channelContractId ppPublicKey cache = .error e := by
  unfold resolveChannelContext
  split
  · exact ⟨_, rfl⟩
  split
  · exact ⟨_, rfl⟩
  split
  · exact ⟨_, rfl⟩
  rename_i membership hpicked
  split
  · exact ⟨_, rfl⟩
  rename_i configJson hjson
  split
  · exact ⟨_, rfl⟩
  rename_i config hparse
  split
  · exact ⟨_, rfl⟩
  rename_i channel hfound
  have hmem := List.mem_of_find?_eq_some hfound
  have hid : channel.channelContractId = channelContractId := by simpa using List.find?_some hfound
  exact absurd ⟨configJson, config, channel, hjson, hparse, hmem, hid, rfl⟩ (h membership hpicked _)

/-- A membership that lists the channel resolves, to the cached client or to
one with the ids that it lists. -/
theorem resolve_of_lists (hserving : fleet.Serving env ppPublicKey)
    {membership : CouncilMembership} (hpicked : fleet.getActiveForPp ppPublicKey = some membership)
    {ids : ContractId × ContractId} (hlists : membership.Lists env channelContractId ids) :
    ∃ ctx cache' authId assetId, membership.Lists env channelContractId (authId, assetId) ∧
      resolveChannelContext env fleet channelContractId ppPublicKey cache = .ok (ctx, cache') ∧
      ctx.channelClient = (getChannelClient channelContractId authId assetId cache).1 := by
  obtain ⟨hnamed, pp, hpp, hactive, sk, publicKey, hsk, hstart, hkey⟩ := hserving
  obtain ⟨configJson, config, channel, hjson, hparse, hmem, hid, -⟩ := hlists
  have hfilter : (fleet.paymentProviders.find ppPublicKey).filter (·.isActive) = some pp :=
    Option.filter_eq_some_iff.mpr ⟨hpp, hactive⟩
  have hsome : ((config.channels.getD []).find?
      (·.channelContractId == channelContractId)).isSome = true :=
    List.find?_isSome.mpr ⟨channel, hmem, by simpa using hid⟩
  obtain ⟨found, hfound⟩ := Option.isSome_iff_exists.mp hsome
  have hmem' := List.mem_of_find?_eq_some hfound
  have hid' : found.channelContractId = channelContractId := by simpa using List.find?_some hfound
  let authId := (config.council.bind (·.channelAuthId)).getD membership.channelAuthId
  let assetId := found.assetContractId.getD ""
  let client := getChannelClient channelContractId authId assetId cache
  refine ⟨⟨publicKey, sk, client.1, ⟨publicKey, env.networkFee, 30, [publicKey]⟩⟩, client.2,
    authId, assetId, ?_, ?_, rfl⟩
  · exact ⟨configJson, config, found, hjson, hparse, hmem', hid', rfl⟩
  · simp only [resolveChannelContext, if_neg hnamed, hfilter, hpicked, hjson, hparse, hfound]
    rw [hsk]
    show (if sk.toList.head? ≠ some 'S' then _ else _) = _
    rw [if_neg (not_not.mpr hstart), hkey]
    rfl

end Resolve

/-! ## When it is right -/

section Claim
variable {env : ResolverEnv} {fleet : Fleet} {ppPublicKey : PublicKey}
  {channelContractId : ContractId} {cache : ChannelCache}

theorem lists_of_picked {membership : CouncilMembership} {ids : ContractId × ContractId}
    (hpicked : fleet.getActiveForPp ppPublicKey = some membership)
    (hlists : membership.Lists env channelContractId ids) :
    fleet.Lists env ppPublicKey channelContractId ids :=
  ⟨membership, List.mem_of_head? hpicked, hlists⟩

/-- **When a channel is resolved right.** For an active PP: if no ACTIVE
membership lists the channel, or the one that is picked does and a client that
is cached under the channel has the ids of a membership that lists it. -/
theorem resolves_right_iff (env : ResolverEnv) (fleet : Fleet) (ppPublicKey : PublicKey)
    (channelContractId : ContractId) (cache : ChannelCache)
    (hserving : fleet.Serving env ppPublicKey) :
    fleet.ResolvesRight env ppPublicKey channelContractId cache ↔
      ((∃ ids, fleet.Lists env ppPublicKey channelContractId ids) →
        (∃ membership ids, fleet.getActiveForPp ppPublicKey = some membership ∧
          membership.Lists env channelContractId ids) ∧
        ∀ client, cache.find channelContractId = some client →
          fleet.Lists env ppPublicKey channelContractId client.ids) := by
  constructor
  · intro hright hlisted
    obtain ⟨ctx, cache', hctx, hids⟩ := hright.listed hlisted
    by_cases hpicked : ∃ membership ids, fleet.getActiveForPp ppPublicKey = some membership ∧
        membership.Lists env channelContractId ids
    · refine ⟨hpicked, ?_⟩
      intro client hclient
      obtain ⟨membership, ids, hpicked, hlists⟩ := hpicked
      obtain ⟨ctx', cache'', authId, assetId, -, hctx', hbuilt⟩ :=
        resolve_of_lists cache hserving hpicked hlists
      rw [hctx] at hctx'
      cases hctx'
      rw [getChannelClient_cached hclient] at hbuilt
      rwa [hbuilt] at hids
    · have hno : ∀ membership, fleet.getActiveForPp ppPublicKey = some membership →
          ∀ ids, ¬ membership.Lists env channelContractId ids :=
        fun membership hm ids hl => hpicked ⟨membership, ids, hm, hl⟩
      obtain ⟨e, he⟩ := resolve_of_not_lists cache hno
      cases hctx.symm.trans he
  · intro hcond
    constructor
    · intro hlisted
      obtain ⟨⟨membership, ids, hpicked, hlists⟩, hcached⟩ := hcond hlisted
      obtain ⟨ctx, cache', authId, assetId, hlists', hctx, hbuilt⟩ :=
        resolve_of_lists cache hserving hpicked hlists
      refine ⟨ctx, cache', hctx, ?_⟩
      rw [hbuilt]
      cases hfind : cache.find channelContractId with
      | some client =>
        rw [getChannelClient_cached hfind]
        exact hcached client hfind
      | none =>
        rw [getChannelClient_built hfind]
        exact lists_of_picked hpicked hlists'
    · intro hunlisted
      apply resolve_of_not_lists
      exact fun membership hpicked ids hlists => hunlisted ⟨ids, lists_of_picked hpicked hlists⟩

end Claim

namespace Small

/-- A configuration is one channel, named by the JSON text itself. -/
def resolverEnv : ResolverEnv where
  parseConfig json := some ⟨none, some [⟨json, some ("asset of " ++ json)⟩]⟩
  decryptSk encryptedSk := .ok encryptedSk
  fromSecret _ := .ok "GPP"
  networkFee := 100

/-- An ACTIVE membership of "GPP" in a council that has one channel. -/
def memberOf (council : ContractId) (channel : String) : CouncilMembership where
  createdAt := 0
  updatedAt := 0
  id := council
  councilUrl := ""
  councilName := none
  channelAuthId := council
  status := .active
  configJson := some channel
  ppPublicKey := "GPP"

/-- "GPP" is in the councils "A" and "B", each with a channel of its own. -/
def twoChannels : Fleet where
  paymentProviders := ⟨[⟨⟨"GPP", none⟩, "S...", true⟩], by decide⟩
  councilMemberships := ⟨[memberOf "A" "channel of A", memberOf "B" "channel of B"], by decide⟩

theorem twoChannels_serving : twoChannels.Serving resolverEnv "GPP" :=
  ⟨by decide, _, rfl, rfl, "S...", "GPP", rfl, by decide, rfl⟩

theorem memberOf_lists (council : ContractId) {channel : String} (hne : channel ≠ "") :
    (memberOf council channel).Lists resolverEnv channel (council, "asset of " ++ channel) := by
  have hjson : (memberOf council channel).configJson.filter (· != "") = some channel := by
    simp [memberOf, hne]
  exact ⟨channel, _, _, hjson, rfl, List.mem_singleton_self _, rfl, rfl⟩

end Small

theorem resolves_right_iff_small :
    Small.twoChannels.ResolvesRight Small.resolverEnv "GPP" "channel of A" .empty := by
  apply (resolves_right_iff Small.resolverEnv Small.twoChannels "GPP" "channel of A" .empty
    Small.twoChannels_serving).mpr
  intro _
  constructor
  · exact ⟨Small.memberOf "A" "channel of A", _, by decide +kernel,
      Small.memberOf_lists "A" (by decide)⟩
  · intro client hclient
    cases hclient

/-- The channel of the second council is not resolved. -/
theorem second_council_not_resolved :
    ¬ ∀ (env : ResolverEnv) (fleet : Fleet) (ppPublicKey : PublicKey)
        (channelContractId : ContractId) (cache : ChannelCache), fleet.Serving env ppPublicKey →
        fleet.ResolvesRight env ppPublicKey channelContractId cache := by
  intro h
  have hright := h Small.resolverEnv Small.twoChannels "GPP" "channel of B" .empty
    Small.twoChannels_serving
  have hlisted : ∃ ids, Small.twoChannels.Lists Small.resolverEnv "GPP" "channel of B" ids :=
    ⟨_, Small.memberOf "B" "channel of B", by decide +kernel, Small.memberOf_lists "B" (by decide)⟩
  obtain ⟨ctx, cache', hctx, -⟩ := hright.listed hlisted
  have herror : (resolveChannelContext Small.resolverEnv Small.twoChannels "channel of B" "GPP"
      .empty).toOption.isSome = false := by decide +kernel
  rw [hctx] at herror
  cases herror

end ProviderPlatform
