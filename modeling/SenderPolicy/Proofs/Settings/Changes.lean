/-
Where accepted settings come from.

A change of settings sets one of them after the other and stops at the first text that cannot be
read, so a change that succeeds has made all its steps.  Accepted settings are the defaults after
two such changes, by the text of a file and by the environment, and they have passed the check.

Of the steps only those that take over a list of nameservers change it.  A variable replaces the
list of a file and cannot be an empty list; a file may have an empty one.
-/
import SenderPolicy.CommandLine.Run
import SenderPolicy.Proofs.Steps

namespace SenderPolicy

/-! ### Changes of settings that succeed -/

namespace SettingsUpdate

variable {u v : SettingsUpdate} {s s' : Settings}

/-- Two changes succeed one after the other. -/
lemma apply_bind_eq_ok_iff :
    SettingsUpdate.apply (u >>= fun _ => v) s = (.ok (), s') ↔
      ∃ mid, u.apply s = (.ok (), mid) ∧ v.apply mid = (.ok (), s') := by
  have hbind : SettingsUpdate.apply (u >>= fun _ => v) s =
      match u.apply s with
      | (.ok (), mid) => v.apply mid
      | (.error e, mid) => (.error e, mid) := by
    simp only [apply, ExceptT.run_bind, StateT.run_bind]
    generalize (ExceptT.run u).run s = ended
    obtain ⟨_ | _, _⟩ := ended <;> rfl
  rw [hbind]
  cases u.apply s with
  | mk outcome mid =>
      cases outcome with
      | error e => simp
      | ok a => simp

end SettingsUpdate

namespace Settings

variable {α β γ : Type} {s s' : Settings} {env : Environment}

lemma setWith_apply (value : Option α) (set : Settings → α → Settings) (s : Settings) :
    (setWith value set).apply s = (.ok (), value.elim s (set s)) := by
  cases value <;> rfl

lemma readWith_apply_eq_ok_iff {read : α → Except SettingsError β} {value : Option α}
    {set : Settings → β → Settings} :
    (readWith read value set).apply s = (.ok (), s') ↔
      match value with
      | none => s' = s
      | some a => ∃ b, read a = .ok b ∧ s' = set s b := by
  cases value with
  | none => exact ⟨fun h => (congrArg Prod.snd h).symm, fun h => h ▸ rfl⟩
  | some a =>
      cases hread : read a with
      | error e =>
          simp only [readWith, hread]
          exact ⟨nofun, nofun⟩
      | ok b =>
          simp only [readWith, hread, Except.ok.injEq, exists_eq_left']
          exact ⟨fun h => (congrArg Prod.snd h).symm, fun h => h ▸ rfl⟩

/-- What a setting is not about stays as it is. -/
lemma eq_of_readWith (part : Settings → γ) {read : α → Except SettingsError β} {value : Option α}
    {set : Settings → β → Settings} (h : (readWith read value set).apply s = (.ok (), s'))
    (hset : ∀ s b, part (set s b) = part s) : part s' = part s := by
  cases value with
  | none => rw [readWith_apply_eq_ok_iff.1 h]
  | some a =>
      obtain ⟨b, -, rfl⟩ := readWith_apply_eq_ok_iff.1 h
      exact hset s b

lemma eq_of_setWith (part : Settings → γ) {value : Option α} {set : Settings → α → Settings}
    (h : (setWith value set).apply s = (.ok (), s')) (hset : ∀ s a, part (set s a) = part s) :
    part s' = part s := by
  rw [setWith_apply] at h
  cases h
  cases value with
  | none => rfl
  | some a => exact hset s a

lemma ne_nil_of_readNameservers {text : String} {servers : List Net.SocketAddress}
    (h : readNameservers text = .ok servers) : servers ≠ [] := by
  obtain ⟨read, -, h⟩ := bind_eq_ok_iff.1 h
  split at h
  · cases h
  · cases h
    assumption

/-- A variable that is set takes the place of a list of nameservers, and is no empty list. -/
lemma nameservers_of_takeEnvironment (h : (takeEnvironment env).apply s = (.ok (), s')) :
    s'.nameservers = some [] ↔ env "SPF_UPSTREAM_SERVERS" = none ∧ s.nameservers = some [] := by
  simp only [takeEnvironment, SettingsUpdate.apply_bind_eq_ok_iff] at h
  obtain ⟨s₁, h₁, s₂, h₂, s₃, h₃, s₄, h₄, s₅, h₅, h₆⟩ := h
  have hbefore : s₄.nameservers = s.nameservers := by
    rw [eq_of_readWith nameservers h₄ fun _ _ => rfl, eq_of_readWith nameservers h₃ fun _ _ => rfl,
      eq_of_readWith nameservers h₂ fun _ _ => rfl, eq_of_readWith nameservers h₁ fun _ _ => rfl]
  rw [eq_of_readWith nameservers h₆ fun _ _ => rfl, ← hbefore]
  rw [readWith_apply_eq_ok_iff] at h₅
  cases hvariable : env "SPF_UPSTREAM_SERVERS" with
  | none =>
      rw [hvariable] at h₅
      simp [h₅]
  | some text =>
      rw [hvariable] at h₅
      obtain ⟨servers, hservers, rfl⟩ := h₅
      simp [ne_nil_of_readNameservers hservers]

/-- The nameservers that the settings in a text name, if they are set there. -/
def namedNameservers? (text : String) : Option (List String) := do
  let d ← SettingsDocument.read? text
  let r ← d.resolver
  r.nameservers

lemma nameservers_of_takeResolver {d : ResolverDocument}
    (h : (takeResolver d).apply s = (.ok (), s')) :
    s'.nameservers = some [] ↔
      d.nameservers = some [] ∨ d.nameservers = none ∧ s.nameservers = some [] := by
  simp only [takeResolver, SettingsUpdate.apply_bind_eq_ok_iff] at h
  obtain ⟨s₁, h₁, s₂, h₂, s₃, h₃, s₄, h₄, s₅, h₅, h₆⟩ := h
  have hbefore : s₃.nameservers = s.nameservers := by
    rw [eq_of_setWith nameservers h₃ fun _ _ => rfl, eq_of_setWith nameservers h₂ fun _ _ => rfl,
      eq_of_setWith nameservers h₁ fun _ _ => rfl]
  rw [eq_of_setWith nameservers h₆ fun _ _ => rfl, eq_of_setWith nameservers h₅ fun _ _ => rfl,
    ← hbefore]
  rw [readWith_apply_eq_ok_iff] at h₄
  cases hnames : d.nameservers with
  | none =>
      rw [hnames] at h₄
      simp [h₄]
  | some names =>
      rw [hnames] at h₄
      obtain ⟨servers, hservers, rfl⟩ := h₄
      have hlength := (mapM_eq_ok_iff.1 hservers).length_eq
      simp [← List.length_eq_zero_iff, hlength]

/-- An empty list of nameservers in a text is taken over as it is. -/
lemma nameservers_of_takeText {text : String} (h : (takeText text).apply s = (.ok (), s')) :
    s'.nameservers = some [] ↔ namedNameservers? text = some [] ∨
      namedNameservers? text = none ∧ s.nameservers = some [] := by
  rw [takeText] at h
  rw [namedNameservers?]
  cases hread : SettingsDocument.read? text with
  | none =>
      rw [hread] at h
      cases h
  | some d =>
      rw [hread] at h
      simp only [takeDocument, SettingsUpdate.apply_bind_eq_ok_iff] at h
      obtain ⟨s₁, h₁, s₂, h₂, h₃⟩ := h
      have hbefore : s₂.nameservers = s.nameservers := by
        rw [eq_of_setWith nameservers h₂ fun _ _ => rfl,
          eq_of_readWith nameservers h₁ fun _ _ => rfl]
      rw [← hbefore]
      cases hresolver : d.resolver with
      | none =>
          rw [hresolver] at h₃
          cases h₃
          simp [hresolver]
      | some r =>
          rw [hresolver] at h₃
          simpa [hresolver] using nameservers_of_takeResolver h₃

/-! ### Settings that are accepted -/

/-- Settings that pass the check. -/
structure Valid (s : Settings) : Prop where
  timeout_pos : 0 < s.timeoutMs
  timeout_le : s.timeoutMs ≤ maxTimeoutMs
  requestTimeout_pos : 0 < s.requestTimeoutMs
  requestTimeout_le : s.requestTimeoutMs ≤ maxRequestTimeoutMs
  /-- If the native backend is asked by default, it has a nameserver. -/
  nameservers_ne : s.usesNative = true → s.nameservers ≠ some []

lemma validate_eq_ok_iff : s.validate = .ok () ↔ s.Valid := by
  constructor
  · intro h
    rw [validate] at h
    split at h
    · cases h
    split at h
    · cases h
    split at h
    · cases h
    split at h
    · cases h
    rename_i hzero hgreat hrequest hnative
    exact ⟨by omega, by omega, by omega, by omega, fun huses hnone => hnative ⟨huses, hnone⟩⟩
  · intro h
    have hpos := h.timeout_pos
    have hle := h.timeout_le
    have hrequestPos := h.requestTimeout_pos
    have hrequestLe := h.requestTimeout_le
    rw [validate, if_neg (by omega), if_neg (by omega), if_neg (by omega),
      if_neg fun hnative => h.nameservers_ne hnative.1 hnative.2]

lemma ofUpdate_eq_ok_iff {u : SettingsUpdate} :
    ofUpdate u = .ok s ↔ u.apply {} = (.ok (), s) ∧ s.Valid := by
  rw [← validate_eq_ok_iff, ofUpdate]
  obtain ⟨outcome, s'⟩ := u.apply {}
  cases outcome with
  | error e => exact ⟨nofun, nofun⟩
  | ok _ =>
      simp only [ok_bind, bind_eq_ok_iff]
      constructor
      · rintro ⟨_, hvalid, hreturn⟩
        cases hreturn
        exact ⟨rfl, hvalid⟩
      · rintro ⟨hs, hvalid⟩
        cases hs
        exact ⟨(), hvalid, rfl⟩

end Settings

namespace CommandLine.Invocation

variable {i : Invocation} {env : Environment} {readFile : String → Except FileFault (List UInt8)}
  {s : Settings}

/-- The text in the settings file of an invocation that names one which can be read. -/
def settingsText? (i : Invocation) (readFile : String → Except FileFault (List UInt8)) :
    Option String :=
  i.config.bind fun path => (Settings.textOfFile path (readFile path)).toOption

/-- Accepted settings are the defaults, changed first by the text of the file and then by the
environment. -/
lemma exists_apply_of_settings (h : i.settings env readFile = .ok s) :
    ∃ mid : Settings,
      (match i.settingsText? readFile with
        | none => mid = {}
        | some text => (Settings.takeText text).apply {} = (.ok (), mid)) ∧
      (Settings.takeEnvironment env).apply mid = (.ok (), s) ∧ s.Valid := by
  rw [settings] at h
  rw [settingsText?]
  cases hconfig : i.config with
  | none =>
      rw [hconfig] at h
      exact ⟨{}, rfl, Settings.ofUpdate_eq_ok_iff.1 h⟩
  | some path =>
      rw [hconfig] at h
      obtain ⟨text, htext, h⟩ := bind_eq_ok_iff.1 h
      obtain ⟨happly, hvalid⟩ := Settings.ofUpdate_eq_ok_iff.1 h
      obtain ⟨mid, hfile, henv⟩ := SettingsUpdate.apply_bind_eq_ok_iff.1 happly
      refine ⟨mid, ?_, henv, hvalid⟩
      simpa [htext, Except.toOption] using hfile

/-- Only a file can say that there are no nameservers, and only if no variable says otherwise. -/
lemma nameservers_eq_some_nil_iff (h : i.settings env readFile = .ok s) :
    s.nameservers = some [] ↔ env "SPF_UPSTREAM_SERVERS" = none ∧
      (i.settingsText? readFile).bind Settings.namedNameservers? = some [] := by
  obtain ⟨mid, hfile, henv, -⟩ := exists_apply_of_settings h
  rw [Settings.nameservers_of_takeEnvironment henv]
  refine and_congr_right fun _ => ?_
  cases htext : i.settingsText? readFile with
  | none =>
      rw [htext] at hfile
      simp [hfile]
  | some text =>
      rw [htext] at hfile
      simp [Settings.nameservers_of_takeText hfile]

end CommandLine.Invocation

end SenderPolicy
