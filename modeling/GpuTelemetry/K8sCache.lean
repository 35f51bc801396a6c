import GpuTelemetry.ExpiringCache
import GpuTelemetry.K8sGpuMap

namespace GpuTelemetry

/-- The `Config` of the Go helper. -/
structure K8sConfig where
  NodeName : Str
  KubeconfigPath : Str
  CacheDuration : Int
  LabelAllowList : List Str

/-- A call of `GetGPU2K8s`, with the environment it meets. The times are those
that `time.Now()` gives once the call holds the lock and once the map is built. -/
structure K8sCall where
  cfg : K8sConfig
  now : Int
  myNodeName : Str
  newClient : Str → Except Str K8sApi
  built : Int

abbrev K8sGpus := Str → Option K8sMetadata

namespace K8sCall

def nodeName (call : K8sCall) : Str := if call.cfg.NodeName = [] then call.myNodeName else call.cfg.NodeName

/-- What `GetGPU2K8s` does without a live entry in its cache. -/
def fetch (call : K8sCall) : Except Str K8sGpus :=
  if call.nodeName = [] then
    .error "k8shelper: node name not configured and MY_NODE_NAME env var not set".toList
  else
    match call.newClient call.cfg.KubeconfigPath with
    | .error err => .error ("k8shelper: failed to create k8s client: ".toList ++ err)
    | .ok client => buildGPU2K8s client call.nodeName call.cfg.LabelAllowList

def cacheDuration (call : K8sCall) : Int := if call.cfg.CacheDuration ≤ 0 then 60 else call.cfg.CacheDuration

/-- `time.Duration(cacheDuration) * time.Second`, in nanoseconds of an `int64`. -/
def lifetime (call : K8sCall) : Int := (call.cacheDuration * 1000000000).bmod (2 ^ 64)

end K8sCall

/-- `GetGPU2K8s` under the lock of the cache: its result, and the cache it leaves. -/
def getGPU2K8s (globalCache : ExpiringCache K8sGpus) (call : K8sCall) : Except Str K8sGpus × ExpiringCache K8sGpus :=
  match globalCache.data with
  | some data => if call.now < globalCache.expiresAt then (.ok data, globalCache) else refresh
  | none => refresh
where
  refresh : Except Str K8sGpus × ExpiringCache K8sGpus :=
    match call.fetch with
    | .error err => (.error err, globalCache)
    | .ok result => (.ok result, ⟨some result, call.built + call.lifetime⟩)

/-- The cache of a process that has just started. -/
def globalCache : ExpiringCache K8sGpus := ⟨none, 0⟩

def cacheAfter (calls : List K8sCall) : ExpiringCache K8sGpus :=
  calls.foldl (fun cache call => (getGPU2K8s cache call).2) globalCache

namespace K8sCall

/-- Whether a call goes past the cache, after these calls. -/
def Asks (call : K8sCall) (before : List K8sCall) : Prop := (cacheAfter before).asks call.now

def Fetches (call : K8sCall) (before : List K8sCall) (gpu2k8s : K8sGpus) : Prop :=
  call.Asks before ∧ call.fetch = .ok gpu2k8s

def expiry (call : K8sCall) : Int := call.built + call.lifetime

def lookup (call : K8sCall) : Lookup Str K8sGpus := ⟨call.now, call.built, call.fetch, call.lifetime⟩

end K8sCall

theorem getGPU2K8s_eq (cache : ExpiringCache K8sGpus) (call : K8sCall) :
    getGPU2K8s cache call = (cache.answer call.lookup, cache.next call.lookup) := by
  have refreshed : cache.asks call.now →
      getGPU2K8s.refresh cache call = (cache.answer call.lookup, cache.next call.lookup) := by
    intro asked
    rw [ExpiringCache.answer_asked call.lookup asked]
    cases outcome : call.fetch with
    | error err =>
      rw [ExpiringCache.next_failed call.lookup outcome]
      simp [getGPU2K8s.refresh, K8sCall.lookup, outcome]
    | ok result =>
      rw [ExpiringCache.next_asked call.lookup asked outcome]
      simp [getGPU2K8s.refresh, K8sCall.lookup, Lookup.expiry, outcome]
  cases held : cache.data with
  | none => simpa only [getGPU2K8s, held] using refreshed (by simp [ExpiringCache.asks, held])
  | some data =>
    by_cases live : call.now < cache.expiresAt
    · rw [ExpiringCache.answer_live call.lookup held live, ExpiringCache.next_live call.lookup held live]
      simp [getGPU2K8s, held, live]
    · simpa only [getGPU2K8s, held, if_neg live] using refreshed (by simp [ExpiringCache.asks, live])

theorem cacheAfter_eq (calls : List K8sCall) : cacheAfter calls = globalCache.after (calls.map K8sCall.lookup) := by
  induction calls using List.reverseRecOn with
  | nil => rfl
  | append_singleton calls call ih =>
    rw [List.map_append, List.map_singleton, ExpiringCache.after_append, ← ih]
    simp only [cacheAfter, List.foldl_append, List.foldl_cons, List.foldl_nil, getGPU2K8s_eq]

/-- What is to hold of a run of calls of `GetGPU2K8s`: a map that is returned
was built by a call whose cache duration is not over, until then every call
returns it, and the API server is left alone. -/
structure K8sCacheSound (calls : List K8sCall) : Prop where
  fresh : ∀ before call after gpu2k8s, calls = before ++ call :: after →
    (getGPU2K8s (cacheAfter before) call).1 = .ok gpu2k8s →
      call.Fetches before gpu2k8s ∨ ∃ earlier source between, before = earlier ++ source :: between ∧
        source.Fetches earlier gpu2k8s ∧ call.now < source.expiry
  kept : ∀ before source between call after gpu2k8s, calls = before ++ source :: between ++ call :: after →
    source.Fetches before gpu2k8s → call.now < source.expiry →
      (getGPU2K8s (cacheAfter (before ++ source :: between)) call).1 = .ok gpu2k8s
  spaced : ∀ before source between call after gpu2k8s, calls = before ++ source :: between ++ call :: after →
    source.Fetches before gpu2k8s → call.Asks (before ++ source :: between) → source.expiry ≤ call.now

/-- Calls that take the lock one after the other keep to the cache durations,
whatever their configurations are and whichever of their queries fail. -/
theorem getGPU2K8s_sound (calls : List K8sCall) (inTurn : InTurn (calls.map K8sCall.lookup)) :
    K8sCacheSound calls := by
  have sound : globalCache.Sound (calls.map K8sCall.lookup) := ExpiringCache.sound rfl inTurn
  refine ⟨?_, ?_, ?_⟩
  · intro before call after gpu2k8s split result
    rw [getGPU2K8s_eq, cacheAfter_eq] at result
    rcases sound.fresh (before.map K8sCall.lookup) call.lookup (after.map K8sCall.lookup) gpu2k8s (by simp [split])
      result with ⟨outcome, asked⟩ | ⟨earlier, source, between, whole, asked, outcome, live⟩
    · exact .inl ⟨by rwa [K8sCall.Asks, cacheAfter_eq], outcome⟩
    · obtain ⟨earlier, rest, rfl, rfl, later⟩ := List.map_eq_append_iff.mp whole
      obtain ⟨source, between, rfl, rfl, rfl⟩ := List.map_eq_cons_iff.mp later
      exact .inr ⟨earlier, source, between, rfl, ⟨by rwa [K8sCall.Asks, cacheAfter_eq], outcome⟩, live⟩
  · rintro before source between call after gpu2k8s split ⟨asked, outcome⟩ live
    rw [K8sCall.Asks, cacheAfter_eq] at asked
    rw [getGPU2K8s_eq, cacheAfter_eq, List.map_append, List.map_cons]
    exact sound.kept (before.map K8sCall.lookup) source.lookup (between.map K8sCall.lookup) call.lookup
      (after.map K8sCall.lookup) gpu2k8s (by simp [split]) asked outcome live
  · rintro before source between call after gpu2k8s split ⟨asked, outcome⟩ again
    rw [K8sCall.Asks, cacheAfter_eq] at asked again
    rw [List.map_append, List.map_cons] at again
    exact sound.spaced (before.map K8sCall.lookup) source.lookup (between.map K8sCall.lookup) call.lookup
      (after.map K8sCall.lookup) gpu2k8s (by simp [split]) asked outcome again

/-- A call at this second, that meets this API server. -/
def nodeCall (second : Int) (client : Except Str K8sApi) : K8sCall where
  cfg := ⟨"node-1".toList, [], 30, []⟩
  now := second * 1000000000
  myNodeName := []
  newClient _ := client
  built := second * 1000000000 + 1

/-- Two pods are asked for, taken from the cache, cannot be asked for, and are asked for again. -/
theorem getGPU2K8s_sound_refused :
    K8sCacheSound [nodeCall 0 (.ok (podsApi trainAndServe)), nodeCall 10 (.ok (podsApi trainAndServe)),
      nodeCall 40 (.error "connection refused".toList), nodeCall 41 (.ok (podsApi trainAndServe))] :=
  getGPU2K8s_sound _ ⟨by decide, by decide⟩

end GpuTelemetry
