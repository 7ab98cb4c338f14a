/-
Decoders against the documents of the values that they decode.

`Json.nesting` says how deeply the brackets of a document are nested, which is the depth that a
decoder needs for it.  A decoder reverses an encoder (`Json.Reverses`) if it takes the document of
every good value back to the value, given that depth, and if all that it makes of any document at
all is good and has a document that is nested no deeper than the decoder was allowed to go.  By the
second half, whatever was decoded can be written and decoded again, however the document that it was
decoded from was built.

A record of fields is decoded into a draft, field by field, so what holds of the draft is shown for
one field (`Json.Shape.Keeps`) and then for every object and every array.
-/
import SenderPolicy.Proofs.Json.Reader
import SenderPolicy.Proofs.Steps

namespace SenderPolicy.Json

/-! ### Nesting -/

mutual

/-- How deeply the brackets of a document are nested. -/
def nesting : Json → Nat
  | null => 0
  | bool _ => 0
  | natural _ => 0
  | otherNumber => 0
  | string _ => 0
  | array items => nestingOfItems items + 1
  | object members => nestingOfMembers members + 1
  | unreadable => 0

/-- How deeply the brackets of some items are nested. -/
def nestingOfItems : List Json → Nat
  | [] => 0
  | j :: js => max (nesting j) (nestingOfItems js)

/-- How deeply the brackets of some members are nested. -/
def nestingOfMembers : List Member → Nat
  | [] => 0
  | m :: ms => max (nestingOfMember m) (nestingOfMembers ms)

/-- How deeply the brackets of the value of a member are nested. -/
def nestingOfMember : Member → Nat
  | .mk _ value => nesting value

end

lemma nestingOfItems_le_iff {js : List Json} {n : Nat} :
    nestingOfItems js ≤ n ↔ ∀ j ∈ js, j.nesting ≤ n := by
  induction js with
  | nil => simp [nestingOfItems]
  | cons j js ih => rw [nestingOfItems, Nat.max_le, ih, List.forall_mem_cons]

lemma nesting_array_le_iff {js : List Json} {n : Nat} :
    (array js).nesting ≤ n ↔ ∃ m, n = m + 1 ∧ ∀ j ∈ js, j.nesting ≤ m := by
  rw [nesting]
  constructor
  · intro h
    refine ⟨n - 1, by omega, nestingOfItems_le_iff.1 (by omega)⟩
  · rintro ⟨m, rfl, hjs⟩
    have h := nestingOfItems_le_iff.2 hjs
    omega

@[simp] lemma nesting_ofText? (s : Option String) : (ofText? s).nesting = 0 := by
  cases s <;> rfl

/-! ### Steps of a decoder -/

section Steps

variable {α : Type} {depth : Nat}

@[simp] lemma decodeString_string (s : String) : decodeString depth (string s) = .ok s := rfl

lemma decodeName_string {ofName? : String → Option α} {s : String} {a : α}
    (h : ofName? s = some a) : decodeName ofName? depth (string s) = .ok a := by
  cases depth <;> simp [decodeName, h]

@[simp] lemma decodeOption_ofText? (s : Option String) :
    decodeOption decodeString depth (ofText? s) = .ok s := by
  cases s <;> rfl

@[simp] lemma fill_none_ok (a : α) : fill none (.ok a) = .ok (some a) := rfl

@[simp] lemma required_some (a : α) : required (some a) = .ok a := rfl

lemma required_eq_ok_iff {field : Option α} {a : α} : required field = .ok a ↔ field = some a := by
  cases field <;> simp [required]

/-- A field is filled once, with what its value is decoded to. -/
lemma fill_eq_ok_iff {field filled : Option α} {value : Except Fault α} :
    fill field value = .ok filled ↔ field = none ∧ ∃ a, value = .ok a ∧ filled = some a := by
  cases field with
  | some _ => simp [fill]
  | none =>
      cases value with
      | error fault => exact ⟨nofun, nofun⟩
      | ok a => exact ⟨fun h => ⟨rfl, a, rfl, (Except.ok.inj h).symm⟩,
          fun ⟨_, _, ha, h⟩ => by rw [h, ← Except.ok.inj ha]; rfl⟩

/-- A step of a shape that fills a field. -/
lemma exists_of_fill {σ : Type} {field : Option α} {value : Except Fault α} {put : Option α → σ}
    {draft : σ} (h : (do return put (← fill field value)) = .ok draft) :
    ∃ a, value = .ok a ∧ draft = put (some a) := by
  obtain ⟨filled, hfill, hdraft⟩ := bind_eq_ok_iff.1 h
  obtain ⟨-, a, ha, rfl⟩ := fill_eq_ok_iff.1 hfill
  exact ⟨a, ha, (Except.ok.inj hdraft).symm⟩

lemma decodeOption_of_ne_null {d : Decoder α} {j : Json} (hj : j ≠ null) :
    decodeOption d depth j = some <$> d depth j := by
  cases j with
  | null => exact absurd rfl hj
  | _ => rfl

/-- What an optional field that was met holds is what the field as a whole comes to. -/
lemma forall_mem_getD {P : α → Prop} {field : Option (Option α)}
    (h : ∀ o ∈ field, ∀ a ∈ o, P a) : ∀ a ∈ field.getD none, P a := by
  cases field with
  | none => exact nofun
  | some o => exact h o rfl

/-- What an option holds was made by the decoder. -/
lemma of_decodeOption {d : Decoder α} {j : Json} {o : Option α}
    (h : decodeOption d depth j = .ok o) : ∀ a ∈ o, d depth j = .ok a := by
  rintro a rfl
  have hj : j ≠ null := by
    rintro rfl
    cases h
  rw [decodeOption_of_ne_null hj] at h
  obtain ⟨b, hb, hab⟩ := map_eq_ok_iff.1 h
  rw [hb, Option.some.inj hab]

lemma mapM_map_eq_ok {β : Type} {f : β → Except Fault α} {g : α → β} {as : List α}
    (h : ∀ a ∈ as, f (g a) = .ok a) : (as.map g).mapM f = .ok as :=
  mapM_eq_ok_iff.2 (List.forall₂_map_left_iff.2 (List.forall₂_same.2 h))

lemma exists_of_mapM_eq_ok {β : Type} {f : β → Except Fault α} {bs : List β} {as : List α}
    (h : bs.mapM f = .ok as) : ∀ a ∈ as, ∃ b ∈ bs, f b = .ok a := by
  have hresults := mapM_eq_ok_iff.1 h
  clear h
  induction hresults with
  | nil => exact List.forall_mem_nil _
  | cons ha _ ih =>
      refine List.forall_mem_cons.2 ⟨⟨_, List.mem_cons_self, ha⟩, fun a' ha' => ?_⟩
      obtain ⟨b', hb', heq⟩ := ih a' ha'
      exact ⟨b', List.mem_cons_of_mem _ hb', heq⟩

end Steps

/-! ### Drafts -/

namespace Shape

variable {σ α : Type}

/-- A property of drafts that holds before any field was met and is kept by taking in a field. -/
structure Keeps (shape : Shape σ) (Inv : σ → Prop) : Prop where
  start : Inv shape.start
  put : ∀ {draft name value draft'}, Inv draft → shape.put draft name value = .ok draft' →
    Inv draft'

variable {Inv : σ → Prop}

lemma Keeps.putMembers {shape : Shape σ} (h : shape.Keeps Inv) {members : List Member}
    {draft draft' : σ} (hdraft : Inv draft) (hput : shape.putMembers draft members = .ok draft') :
    Inv draft' := by
  induction members generalizing draft with
  | nil => exact Except.ok.inj hput ▸ hdraft
  | cons m ms ih =>
      obtain ⟨name, value⟩ := m
      cases name with
      | none => cases hput
      | some name =>
          obtain ⟨next, hnext, hput⟩ := bind_eq_ok_iff.1 hput
          exact ih (h.put hdraft hnext) hput

lemma Keeps.putItems {shape : Shape σ} (h : shape.Keeps Inv) {items : List Json}
    {fields : List (String × Bool)} {draft draft' : σ} (hdraft : Inv draft)
    (hput : shape.putItems draft fields items = .ok draft') : Inv draft' := by
  induction items generalizing draft fields with
  | nil =>
      cases fields with
      | nil => exact Except.ok.inj hput ▸ hdraft
      | cons field fields =>
          rw [Shape.putItems] at hput
          · split at hput
            · exact Except.ok.inj hput ▸ hdraft
            · cases hput
          · simp
  | cons item items ih =>
      cases fields with
      | nil => cases hput
      | cons field fields =>
          obtain ⟨next, hnext, hput⟩ := bind_eq_ok_iff.1 hput
          exact ih (h.put hdraft hnext) hput

/-- Every record that is decoded comes from a draft with the property. -/
lemma exists_of_decode {shape : Nat → Shape σ} {finish : σ → Except Fault α}
    {Inv : Nat → σ → Prop} (h : ∀ depth, (shape depth).Keeps (Inv depth)) {depth : Nat} {j : Json}
    {a : α} (hj : decode shape finish depth j = .ok a) :
    ∃ n draft, depth = n + 1 ∧ Inv n draft ∧ finish draft = .ok a := by
  cases j with
  | object members =>
      cases depth with
      | zero => cases hj
      | succ n =>
          obtain ⟨draft, hdraft, hfinish⟩ := bind_eq_ok_iff.1 hj
          exact ⟨n, draft, rfl, (h n).putMembers (h n).start hdraft, hfinish⟩
  | array items =>
      cases depth with
      | zero => cases hj
      | succ n =>
          obtain ⟨draft, hdraft, hfinish⟩ := bind_eq_ok_iff.1 hj
          exact ⟨n, draft, rfl, (h n).putItems (h n).start hdraft, hfinish⟩
  | _ => cases depth <;> cases hj

/-- No record is decoded where brackets are no longer allowed. -/
lemma pos_of_decode {shape : Nat → Shape σ} {finish : σ → Except Fault α} {depth : Nat} {j : Json}
    {a : α} (hj : decode shape finish depth j = .ok a) : 0 < depth := by
  have hkeeps : ∀ depth, (shape depth).Keeps fun _ => True := fun _ =>
    ⟨trivial, fun _ _ => trivial⟩
  obtain ⟨n, -, rfl, -, -⟩ := exists_of_decode hkeeps hj
  exact Nat.succ_pos n

end Shape

/-! ### Decoders that reverse encoders -/

/-- A decoder that reverses an encoder on the good values: as long as it may go less deep than the
limit, it decodes the document of a good value as that value, and whatever it decodes is good and
has a document that it could go into. -/
structure Reverses {α : Type} (d : Decoder α) (enc : α → Json) (Good : α → Prop) (limit : Nat) :
    Prop where
  decode_enc : ∀ {depth a}, depth < limit → Good a → (enc a).nesting ≤ depth →
    d depth (enc a) = .ok a
  of_decode : ∀ {depth j a}, d depth j = .ok a → Good a ∧ (enc a).nesting ≤ depth

namespace Reverses

variable {α : Type} {d : Decoder α} {enc : α → Json} {Good : α → Prop} {limit : Nat}

/-- An array is decoded item by item. -/
lemma list (h : Reverses d enc Good limit) :
    Reverses (decodeList d) (fun as => array (as.map enc)) (fun as => ∀ a ∈ as, Good a)
      (limit + 1) where
  decode_enc {depth as} hdepth hgood hnesting := by
    obtain ⟨m, rfl, hitems⟩ := nesting_array_le_iff.1 hnesting
    rw [List.forall_mem_map] at hitems
    exact mapM_map_eq_ok fun a ha => h.decode_enc (by omega) (hgood a ha) (hitems a ha)
  of_decode {depth j as} hj := by
    cases j with
    | array items =>
        cases depth with
        | zero => cases hj
        | succ m =>
            have hitems := exists_of_mapM_eq_ok hj
            have hparts : ∀ a ∈ as, Good a ∧ (enc a).nesting ≤ m := by
              intro a ha
              obtain ⟨item, -, hitem⟩ := hitems a ha
              exact h.of_decode hitem
            refine ⟨fun a ha => (hparts a ha).1, nesting_array_le_iff.2 ⟨m, rfl, ?_⟩⟩
            rw [List.forall_mem_map]
            exact fun a ha => (hparts a ha).2
    | _ => cases depth <;> cases hj

end Reverses

/-! ### Texts -/

/-- Both texts of a document are read as the value. -/
def ReadsAs {α : Type} (d : Decoder α) (j : Json) (a : α) : Prop :=
  decodeText d j.compact = .ok a ∧ decodeText d j.indented = .ok a

namespace Reverses

variable {α : Type} {d : Decoder α} {enc : α → Json} {Good : α → Prop} {limit : Nat} {a : α}

/-- The texts of a good value are read as the value, unless they are nested too deeply. -/
lemma readsAs (h : Reverses d enc Good (maxDepth + 1)) (hcomplete : (enc a).IsComplete)
    (hgood : Good a) (hnesting : (enc a).nesting ≤ maxDepth) : ReadsAs d (enc a) a := by
  have hdecode := h.decode_enc (Nat.lt_succ_self maxDepth) hgood hnesting
  exact ⟨(decodeText_eq d hcomplete (Or.inl rfl)).trans hdecode,
    (decodeText_eq d hcomplete (Or.inr rfl)).trans hdecode⟩

/-- What was read from any text is read again from its own texts. -/
lemma readsAs_of_decodeText (h : Reverses d enc Good (maxDepth + 1))
    (hcomplete : (enc a).IsComplete) {text : String} (htext : decodeText d text = .ok a) :
    ReadsAs d (enc a) a := by
  have hj : d maxDepth (read text.toList).1 = .ok a := by
    simp only [decodeText] at htext
    split at htext
    · cases htext
    · rename_i b hb
      split at htext
      · rw [hb, htext]
      · cases htext
  obtain ⟨hgood, hnesting⟩ := h.of_decode hj
  exact h.readsAs hcomplete hgood hnesting

end Reverses

end SenderPolicy.Json
