/-
Whether there is a nameserver to ask.

Settings that name no nameservers leave it to the system, which always has some.  So there is none
only if a file has an empty list of them.  Such settings are accepted if the native backend is
neither the default nor a fallback, but the backend is there all the same, and a request may want
it.
-/
import SenderPolicy.Proofs.Resolution.Nameserver
import SenderPolicy.Proofs.Service.Bookkeeping
import SenderPolicy.Proofs.Settings.Changes
import SenderPolicy.Settings.Resolvers

namespace SenderPolicy

open Resolution

/-! ### Asking without nameservers -/

variable {s : Settings}

namespace Settings

lemma systemNameservers_ne_nil (content : Option String) : systemNameservers content ≠ [] := by
  rw [systemNameservers]
  split
  · decide
  · assumption

lemma nameserversIn_eq_nil_iff {system : List Net.SocketAddress} (h : system ≠ []) :
    s.nameserversIn system = [] ↔ s.nameservers = some [] := by
  rw [nameserversIn]
  cases s.nameservers with
  | none => simp [h]
  | some servers => simp

end Settings

namespace Resolution

/-- The attempt with the native backend where there is no nameserver to ask. -/
def Attempt.unserved : Attempt where
  backend := .native
  durationMs := 0
  outcome := .ofAnswer Nameserver.noServers

section Native

variable {n : Network} {servers : List Net.SocketAddress} {domain : String} {a : Attempt}

/-- What the native backend has to say in the end tells whether there is a nameserver to ask. -/
lemma exists_nativeSource_eq (n : Network) (servers : List Net.SocketAddress) (budgetMs : Nat)
    (domain : String) :
    ∃ ms answer, n.nativeSource budgetMs servers domain = .answers ms answer ∧
      (answer = Nameserver.noServers ↔ servers = []) := by
  refine ⟨_, _, rfl, ?_⟩
  rw [Nameserver.resolveAll_eq_noServers_iff, List.map_eq_nil_iff, List.map_eq_nil_iff]

/-- Where there is no nameserver to ask, the native backend says so at once, so it is not cut off in
any place.  Where there is one, it has something else to say, if it is not cut off. -/
lemma Fate.eq_unserved_iff {budgetMs timeoutMs place : Nat}
    (h : Fate timeoutMs domain place (.native, n.nativeSource budgetMs servers) a) :
    a = .unserved ↔ servers = [] := by
  obtain ⟨ms, answer, hnative, hanswer⟩ := exists_nativeSource_eq n servers budgetMs domain
  cases h with
  | @inTime _ _ _ ms' answer' hsource _ =>
      obtain ⟨rfl, rfl⟩ := Reaction.answers.inj (hsource.symm.trans hnative)
      rw [← hanswer, Attempt.unserved, Attempt.mk.injEq,
        AttemptOutcome.ofAnswer_injective.eq_iff]
      refine ⟨fun h => h.2.2, fun h => ⟨rfl, ?_, h⟩⟩
      obtain rfl := hanswer.1 h
      cases hsource
      rfl
  | late hsource hms =>
      refine iff_of_false nofun ?_
      rintro rfl
      cases hsource
      exact Nat.not_lt_zero _ hms
  | breakdown hpanics => cases hnative.symm.trans hpanics

end Native

end Resolution

namespace Settings

variable {n : Network} {first : Option Backend} {domain : String} {a : Attempt} {timeoutMs : Nat}

/-- What an attempt with the native backend is, and that the request or the settings name it. -/
lemma native_of_mem_attempts (h : a ∈ ((s.resolvers n).chain first).attempts timeoutMs domain)
    (hnative : a.backend = .native) :
    (a = Attempt.unserved ↔ s.nameserversIn n.nameservers = []) ∧
      Backend.native ∈ (s.resolvers n).named first := by
  obtain ⟨i, hi⟩ := List.mem_iff_getElem?.1 h
  obtain ⟨⟨b, source⟩, he, hfate⟩ := (follows_attempts _).exists_fate hi
  obtain rfl : b = .native := hfate.backend_eq.symm.trans hnative
  obtain ⟨hnamed, hsource⟩ :=
    (Resolvers.chosen_chain.mem_iff _ _).1 (List.mem_of_getElem? he)
  cases hsource
  exact ⟨hfate.eq_unserved_iff, hnamed⟩

/-- The attempt without a nameserver is made if the native backend is asked and there is none. -/
lemma unserved_mem_iff_asked :
    .unserved ∈ ((s.resolvers n).chain first).attempts timeoutMs domain ↔
      (∃ a ∈ ((s.resolvers n).chain first).attempts timeoutMs domain, a.backend = .native) ∧
        s.nameserversIn n.nameservers = [] := by
  constructor
  · intro hmem
    obtain ⟨hunserved, -⟩ := native_of_mem_attempts hmem rfl
    exact ⟨⟨_, hmem, rfl⟩, hunserved.1 rfl⟩
  · rintro ⟨⟨a, ha, hnative⟩, hnone⟩
    obtain ⟨hunserved, -⟩ := native_of_mem_attempts ha hnative
    rwa [hunserved.2 hnone] at ha

/-- The native backend is asked if it is wanted first, as it is always there. -/
lemma head?_attempts_eq_unserved (h : s.nameserversIn n.nameservers = []) :
    (((s.resolvers n).chain (some .native)).attempts timeoutMs domain).head? = some .unserved := by
  have hsource : (s.resolvers n).source? ((some Backend.native).getD (s.resolvers n).default) =
      some (n.nativeSource s.timeoutMs []) := by
    rw [← h]
    rfl
  exact Resolvers.head?_attempts hsource

/-- A backend that is not asked by default is asked only if it is wanted first. -/
lemma eq_native_of_mem_named (h : Backend.native ∈ (s.resolvers n).named first)
    (hdefault : s.usesNative = false) : first = some .native := by
  simp only [usesNative, Bool.or_eq_false_iff, beq_eq_false_iff_ne, List.contains_eq_mem,
    decide_eq_false_iff_not] at hdefault
  obtain ⟨hbackend, hfallback⟩ := hdefault
  rcases List.mem_cons.1 h with hfirst | hrest
  · cases first with
    | none => exact absurd hfirst.symm hbackend
    | some b => exact congrArg some hfirst.symm
  · exact absurd hrest hfallback

end Settings

namespace CommandLine.Invocation

/-- When the native backend has no nameserver to ask.

Whatever the file and the environment say, as long as the settings are accepted, and whichever
backend a request wants first: a lookup asks the native backend without a nameserver exactly if the
request wants it first, the file has an empty list of nameservers, and no variable takes its place.
Then the backend is neither the default nor a fallback, and it is the first to be asked. -/
theorem unserved_mem_attempts_iff {i : Invocation} {env : Environment}
    {readFile : String → Except FileFault (List UInt8)} (h : i.settings env readFile = .ok s)
    {n : Network} {content : Option String}
    (hsystem : n.nameservers = Settings.systemNameservers content) (first : Option Backend)
    (domain : String) :
    let resolvers := s.resolvers n
    let made := (resolvers.chain first).attempts resolvers.timeoutMs domain
    (.unserved ∈ made ↔
      (∃ a ∈ made, a.backend = .native) ∧ s.nameserversIn n.nameservers = []) ∧
    (.unserved ∈ made ↔
      first = some .native ∧ env "SPF_UPSTREAM_SERVERS" = none ∧
        (i.settingsText? readFile).bind Settings.namedNameservers? = some []) ∧
    (.unserved ∈ made → s.usesNative = false ∧ made.head? = some .unserved) := by
  intro resolvers made
  obtain ⟨-, -, -, hvalid⟩ := exists_apply_of_settings h
  have hempty : s.nameserversIn n.nameservers = [] ↔ s.nameservers = some [] :=
    Settings.nameserversIn_eq_nil_iff (hsystem ▸ Settings.systemNameservers_ne_nil content)
  -- where there is no nameserver, the settings do not name the backend, so the request does
  have hwanted (hmem : .unserved ∈ made) :
      s.nameservers = some [] ∧ s.usesNative = false ∧ first = some .native := by
    have hnone := hempty.1 (Settings.unserved_mem_iff_asked.1 hmem).2
    have hdefault : s.usesNative = false :=
      Bool.eq_false_iff.2 fun huses => hvalid.nameservers_ne huses hnone
    obtain ⟨-, hnamed⟩ := Settings.native_of_mem_attempts hmem rfl
    exact ⟨hnone, hdefault, Settings.eq_native_of_mem_named hnamed hdefault⟩
  refine ⟨Settings.unserved_mem_iff_asked, ?_, fun hmem => ?_⟩
  · rw [← nameservers_eq_some_nil_iff h]
    constructor
    · intro hmem
      obtain ⟨hnone, -, hfirst⟩ := hwanted hmem
      exact ⟨hfirst, hnone⟩
    · rintro ⟨rfl, hnone⟩
      exact List.mem_of_mem_head? (Settings.head?_attempts_eq_unserved (hempty.2 hnone))
  · obtain ⟨hnone, hdefault, rfl⟩ := hwanted hmem
    exact ⟨hdefault, Settings.head?_attempts_eq_unserved (hempty.2 hnone)⟩

/-- A settings file that names no nameservers and no fallbacks. -/
def bareText : String := "[resolver]\nupstream_servers = []\nfallback_order = []\n"

/-- A variable sets the default backend. -/
def googleByDefault : Environment := fun name =>
  if name = "SPF_BACKEND" then some "google" else none

/-- An invocation with a settings file. -/
def withFile : Invocation where
  verbose := false
  config := some "settings.toml"
  command := .serve none

/-- The settings in the file and the variable. -/
def bareSettings : Settings where
  backend := .google
  fallbackOrder := []
  nameservers := some []

/-- A network in which nothing answers. -/
def silentNetwork : Network where
  nameservers := Settings.systemNameservers none
  receive _ _ _ := .silence
  delayMs _ _ _ := 0
  send _ _ := .none
  sendMs limitMs _ := limitMs
  identifiers _ := 0
  task := 1
  wording := .quoting

lemma settings_withFile :
    withFile.settings googleByDefault (fun _ => .ok (Text.Utf8.encode bareText)) =
      .ok bareSettings := by
  decide +kernel

/-- The settings are accepted, and they leave the native backend without a nameserver only in a
request that wants it. -/
theorem unserved_mem_attempts_bareSettings :
    withFile.settings googleByDefault (fun _ => .ok (Text.Utf8.encode bareText)) =
      .ok bareSettings ∧
    silentNetwork.nameservers = Settings.systemNameservers none ∧
    ∀ (first : Option Backend) (domain : String),
      .unserved ∈ ((bareSettings.resolvers silentNetwork).chain first).attempts 2000 domain ↔
        first = some .native := by
  refine ⟨settings_withFile, rfl, fun first domain => ?_⟩
  have hsystem : silentNetwork.nameservers = Settings.systemNameservers none := rfl
  obtain ⟨-, hiff, -⟩ := unserved_mem_attempts_iff settings_withFile hsystem first domain
  have hfile : googleByDefault "SPF_UPSTREAM_SERVERS" = none ∧
      (withFile.settingsText? fun _ => .ok (Text.Utf8.encode bareText)).bind
        Settings.namedNameservers? = some [] := by
    decide +kernel
  exact hiff.trans (and_iff_left hfile)

/-- With these settings, the selector of a request leads to the native backend without a
nameserver. -/
theorem attempts_bareSettings_eq_unserved :
    withFile.settings googleByDefault (fun _ => .ok (Text.Utf8.encode bareText)) =
      .ok bareSettings ∧
    CheckRequest.checkResolver (some "native") = .ok (some .native) ∧
    ((bareSettings.resolvers silentNetwork).chain (some .native)).attempts 2000 "example.com" =
      [{ backend := .native, durationMs := 0
         outcome := .failure (.io "No upstream servers available") }] :=
  ⟨settings_withFile, by decide +kernel, by decide +kernel⟩

end CommandLine.Invocation

end SenderPolicy
