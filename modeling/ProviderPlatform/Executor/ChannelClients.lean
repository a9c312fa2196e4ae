import ProviderPlatform.Executor.ChannelResolver
import ProviderPlatform.Store.Fifo

/-! # The clients that are handed out

The cache is a bounded queue of channels, each with the client that was built
when it entered. It never looks at the other ids it is asked with, so a client
is the one that was asked for exactly as long as the ids of a channel do not
change while it stays in the queue. -/
namespace ProviderPlatform
open Store

/-- The ids a client is asked for with. -/
structure ClientCall where
  channelContractId : ContractId
  channelAuthId : ContractId
  assetContractId : ContractId
  deriving DecidableEq

namespace ClientCall

/-- The client that is built without a cache. -/
def client (call : ClientCall) : PrivacyChannel :=
  ⟨call.channelContractId, call.channelAuthId, call.assetContractId⟩

def get (call : ClientCall) (cache : ChannelCache) : PrivacyChannel × ChannelCache :=
  getChannelClient call.channelContractId call.channelAuthId call.assetContractId cache

end ClientCall

/-- The cache after some calls. -/
def cacheAfter (calls : List ClientCall) : ChannelCache :=
  calls.foldl (fun cache call => (call.get cache).2) .empty

/-- The channels in the cache, the oldest first. -/
def ChannelCache.channels (cache : ChannelCache) : List ContractId :=
  cache.rows.map (·.channelContractId)

/-- The last call for a channel. -/
def lastAsked (calls : List ClientCall) (channelContractId : ContractId) : Option ClientCall :=
  (calls.filter (·.channelContractId == channelContractId)).getLast?

/-- Every call returns the client of its own ids, and the cache stays small. -/
structure CacheTransparent (calls : List ClientCall) : Prop where
  exact : ∀ before call, before ++ [call] <+: calls →
    (call.get (cacheAfter before)).1 = call.client
  bounded : ∀ before, before <+: calls → (cacheAfter before).rows.length ≤ 100

/-- A channel that is still in the queue is asked for as it was the last time. -/
def AskedAlike (calls : List ClientCall) : Prop :=
  ∀ before call, before ++ [call] <+: calls →
    call.channelContractId ∈ resident maxCacheSize (before.map (·.channelContractId)) →
    lastAsked before call.channelContractId = some call

section Calls
variable {cache : ChannelCache} {calls : List ClientCall} {call : ClientCall}
  {channelContractId : ContractId} {client : PrivacyChannel}

theorem cacheAfter_snoc (calls : List ClientCall) (call : ClientCall) :
    cacheAfter (calls ++ [call]) = (call.get (cacheAfter calls)).2 := by
  simp [cacheAfter]

theorem find_eq_none_iff : cache.find channelContractId = none ↔
    channelContractId ∉ cache.channels := by
  rw [Table.find_eq_none, ChannelCache.channels]
  simp

/-! ## One call -/

theorem get_of_find (h : cache.find call.channelContractId = some client) :
    call.get cache = (client, cache) :=
  getChannelClient_cached h

/-- The cache with room for one more. -/
def roomFor (cache : ChannelCache) : ChannelCache :=
  if cache.rows.length ≥ maxCacheSize then cache.evictOldest else cache

theorem get_of_none (h : cache.find call.channelContractId = none) :
    call.get cache = (call.client, (roomFor cache).upsert call.client) := by
  simp only [ClientCall.get, getChannelClient, h]
  rfl

theorem roomFor_sublist (cache : ChannelCache) : (roomFor cache).rows.Sublist cache.rows := by
  unfold roomFor
  split
  · exact List.tail_sublist _
  · exact List.Sublist.refl _

/-- The channels follow the queue. -/
theorem channels_get (call : ClientCall) (cache : ChannelCache) :
    (call.get cache).2.channels = touch maxCacheSize cache.channels call.channelContractId := by
  cases hfind : cache.find call.channelContractId with
  | some client =>
    have hmem : call.channelContractId ∈ cache.channels := by
      rw [← Table.find_key hfind]
      exact List.mem_map_of_mem (Table.find_mem hfind)
    rw [get_of_find hfind, touch_of_mem hmem]
  | none =>
    have hnot := find_eq_none_iff.mp hfind
    have hroom : (roomFor cache).channels =
        if cache.channels.length ≥ maxCacheSize then cache.channels.tail else cache.channels := by
      unfold roomFor ChannelCache.channels
      rw [List.length_map]
      split
      · exact List.map_tail
      · rfl
    have hout : call.client.channelContractId ∉ (roomFor cache).channels := fun hmem =>
      hnot (((roomFor_sublist cache).map _).subset hmem)
    rw [get_of_none hfind, touch_of_notMem hnot, ← hroom]
    unfold ChannelCache.channels at hout ⊢
    rw [Table.upsert, dif_neg hout]
    exact List.map_append

/-- A client that is there after a call was built by it or was there before. -/
theorem find_get (h : (call.get cache).2.find channelContractId = some client) :
    (call.channelContractId = channelContractId ∧ client = (call.get cache).1) ∨
      (call.channelContractId ≠ channelContractId ∧ cache.find channelContractId = some client) := by
  cases hfind : cache.find call.channelContractId with
  | some cached =>
    rw [get_of_find hfind] at h ⊢
    by_cases hid : call.channelContractId = channelContractId
    · subst hid
      exact .inl ⟨rfl, Option.some.inj (h.symm.trans hfind)⟩
    · exact .inr ⟨hid, h⟩
  | none =>
    rw [get_of_none hfind] at h ⊢
    rw [Table.find_upsert] at h
    split at h
    · rename_i hid
      exact .inl ⟨hid, (Option.some.inj h).symm⟩
    · rename_i hid
      have hmem := (roomFor_sublist cache).subset (Table.find_mem h)
      have hkey := Table.find_key h
      refine .inr ⟨hid, ?_⟩
      rw [← hkey]
      exact Table.find_of_mem hmem

/-! ## All calls -/

theorem channels_cacheAfter (calls : List ClientCall) : (cacheAfter calls).channels =
    resident maxCacheSize (calls.map (·.channelContractId)) := by
  induction calls using List.reverseRecOn with
  | nil => rfl
  | append_singleton calls call ih =>
    rw [cacheAfter_snoc, channels_get, ih, List.map_append, List.map_singleton, resident_snoc]

theorem cacheAfter_length_le (calls : List ClientCall) : (cacheAfter calls).rows.length ≤ 100 := by
  have hlength : (cacheAfter calls).channels.length = (cacheAfter calls).rows.length :=
    List.length_map _
  rw [← hlength, channels_cacheAfter]
  exact resident_length_le (by decide) _

theorem lastAsked_snoc (calls : List ClientCall) (call : ClientCall)
    (channelContractId : ContractId) : lastAsked (calls ++ [call]) channelContractId =
      if call.channelContractId = channelContractId then some call
      else lastAsked calls channelContractId := by
  unfold lastAsked
  by_cases hid : call.channelContractId = channelContractId
  · simp [List.filter_append, hid]
  · simp [List.filter_append, hid]

/-- Every client in the cache is the one its channel was last asked for with. -/
def Remembers (calls : List ClientCall) : Prop :=
  ∀ channelContractId client, (cacheAfter calls).find channelContractId = some client →
    ∃ call, lastAsked calls channelContractId = some call ∧ client = call.client

theorem Remembers.snoc (h : Remembers calls)
    (hexact : (call.get (cacheAfter calls)).1 = call.client) : Remembers (calls ++ [call]) := by
  intro channel client hfind
  rw [cacheAfter_snoc] at hfind
  rw [lastAsked_snoc]
  rcases find_get hfind with ⟨hid, hclient⟩ | ⟨hid, hold⟩
  · exact ⟨call, if_pos hid, hclient.trans hexact⟩
  · rw [if_neg hid]
    exact h channel client hold

/-- After calls that were answered exactly. -/
theorem remembers_of_exact (h : ∀ before call, before ++ [call] <+: calls →
    (call.get (cacheAfter before)).1 = call.client) : Remembers calls := by
  induction calls using List.reverseRecOn with
  | nil =>
    intro channel client hfind
    cases hfind
  | append_singleton calls call ih =>
    have hearlier := ih fun before c hinit => h before c (hinit.trans (List.prefix_append _ _))
    exact hearlier.snoc (h calls call (List.prefix_refl _))

theorem client_inj {call' : ClientCall} (h : call.client = call'.client) : call = call' := by
  cases call
  cases call'
  cases h
  rfl

/-- A call is answered exactly if its channel is not there, or was last asked
for with the same ids. -/
theorem Remembers.exact_iff (h : Remembers calls) :
    (call.get (cacheAfter calls)).1 = call.client ↔
      (call.channelContractId ∈ resident maxCacheSize (calls.map (·.channelContractId)) →
        lastAsked calls call.channelContractId = some call) := by
  rw [← channels_cacheAfter]
  cases hfind : (cacheAfter calls).find call.channelContractId with
  | none =>
    have hnot := find_eq_none_iff.mp hfind
    rw [get_of_none hfind]
    exact iff_of_true rfl fun hmem => absurd hmem hnot
  | some client =>
    have hmem : call.channelContractId ∈ (cacheAfter calls).channels := by
      by_contra hnot
      rw [find_eq_none_iff.mpr hnot] at hfind
      cases hfind
    obtain ⟨last, hlast, hclient⟩ := h _ _ hfind
    rw [get_of_find hfind, hlast, hclient]
    constructor
    · intro hsame _
      rw [client_inj hsame]
    · intro hsame
      rw [Option.some.inj (hsame hmem)]

/-- After calls that asked alike. -/
theorem AskedAlike.remembers (h : AskedAlike calls) : ∀ before, before <+: calls →
    Remembers before := by
  intro before
  induction before using List.reverseRecOn with
  | nil =>
    intro _ channel client hfind
    cases hfind
  | append_singleton before call ih =>
    intro hinit
    have hearlier := ih ((List.prefix_append _ _).trans hinit)
    exact hearlier.snoc (hearlier.exact_iff.mpr (h before call hinit))

/-- **The cache.** It is never larger than it should be, and every client is
the one that was asked for exactly if no channel is asked for with other ids
while it is in the queue. -/
theorem cacheTransparent_iff (calls : List ClientCall) :
    CacheTransparent calls ↔ AskedAlike calls := by
  constructor
  · intro h before call hinit
    have hremembers : Remembers before := remembers_of_exact fun b c hb =>
      h.exact b c (hb.trans ((List.prefix_append _ _).trans hinit))
    exact hremembers.exact_iff.mp (h.exact before call hinit)
  · intro h
    refine ⟨fun before call hinit => ?_, fun before _ => cacheAfter_length_le before⟩
    have hremembers := h.remembers before ((List.prefix_append _ _).trans hinit)
    exact hremembers.exact_iff.mpr (h before call hinit)

end Calls

/-- A council moves a channel to another contract of its own: the client stays. -/
theorem moved_channel_keeps_client :
    ¬ CacheTransparent [⟨"channel", "old council", "asset"⟩, ⟨"channel", "new council", "asset"⟩] := by
  intro h
  have hexact := h.exact [⟨"channel", "old council", "asset"⟩] ⟨"channel", "new council", "asset"⟩
    (List.prefix_refl _)
  exact absurd hexact (by decide)

end ProviderPlatform
