/-
Names in a message, as walks through it.

Whoever spells a name goes from place to place: over a label to the octet after it, and from a
pointer to the place that it names.  The places say everything about where to go next, so what
`Dns.Name.labelsAt` does can be told of the walk alone (`Dns.Name.labelsAt_iff_walk`): it gives the
labels that were passed if the walk comes to a zero octet with no more than 16 pointers followed,
and otherwise complains of the 17th pointer or of the place where the walk cannot go on.

A pointer may lead back, also to the middle of a label, so a walk can go on for ever.  But between
two pointers it only goes forward, and so it is not longer than the message for each pointer; a walk
that comes back to where it was has followed a pointer on the way, and will do so again.
-/
import SenderPolicy.Proofs.Dns.Acceptance

namespace SenderPolicy

namespace Dns

namespace Name

open Text

/-- What is passed in one move of a walk. -/
inductive Move where
  | label (text : String)
  | pointer
  deriving DecidableEq

/-- `Step message place move next`: in one move a walk through the message comes from one place to
the next. -/
inductive Step (message : List UInt8) : Nat → Move → Nat → Prop where
  /-- Over a label: the octet at the place is its length, and all of it is in the message. -/
  | label {place : Nat} {n : UInt8} {text : String} (hn : message[place]? = some n) (hzero : n ≠ 0)
      (hbits : n &&& 0xC0 ≠ 0xC0) (hinside : place + 1 + n.toNat ≤ message.length)
      (htext : Utf8.encode text = (message.drop (place + 1)).take n.toNat) :
      Step message place (.label text) (place + 1 + n.toNat)
  /-- Where a pointer leads: it has its two highest bits set, and the others are the place. -/
  | pointer {place : Nat} {high low : UInt8} (hhigh : message[place]? = some high)
      (hbits : high &&& 0xC0 = 0xC0) (hlow : message[place + 1]? = some low) :
      Step message place .pointer ((high &&& 0x3F).toNat <<< 8 ||| low.toNat)

/-- `Walk message place moves last`: a walk through the message from a place to the last one. -/
inductive Walk (message : List UInt8) : Nat → List Move → Nat → Prop where
  | stay {place : Nat} : Walk message place [] place
  | move {place next last : Nat} {move : Move} {moves : List Move}
      (h : Step message place move next) (rest : Walk message next moves last) :
      Walk message place (move :: moves) last

/-- The number of pointers that were followed. -/
def pointers (moves : List Move) : Nat := moves.count .pointer

/-- The labels that were passed. -/
def passed : List Move → List String
  | [] => []
  | .label text :: moves => text :: passed moves
  | .pointer :: moves => passed moves

/-- A walk comes to the end of a name that has these labels, with at most `hops` pointers on the
way. -/
def Arrives (message : List UInt8) (hops place : Nat) (labels : List String) : Prop :=
  ∃ moves last, Walk message place moves last ∧ message[last]? = some 0 ∧ pointers moves ≤ hops ∧
    passed moves = labels

/-- A walk comes to one more pointer after `hops` pointers. -/
def Exceeds (message : List UInt8) (hops place : Nat) : Prop :=
  ∃ moves last high, Walk message place moves last ∧ pointers moves = hops ∧
    message[last]? = some high ∧ high &&& 0xC0 = 0xC0

variable {message : List UInt8} {hops place next last : Nat} {move : Move} {moves more : List Move}
  {labels : List String} {text : String} {n high low : UInt8}

/-! ### The octets of a pointer -/

lemma isPointer_iff_bits : isPointer n = true ↔ n &&& 0xC0 = 0xC0 := by
  have hoctets : ∀ m < 256, isPointer (UInt8.ofNat m) = true ↔ UInt8.ofNat m &&& 0xC0 = 0xC0 := by
    decide +kernel
  simpa only [UInt8.ofNat_toNat] using hoctets n.toNat n.toNat_lt

/-- The place that a pointer names is made of its lower fourteen bits. -/
lemma target_eq_bits (high low : UInt8) :
    target high low = (high &&& 0x3F).toNat <<< 8 ||| low.toNat := by
  have hbits : (high &&& 0x3F).toNat = high.toNat % 64 := by
    rw [UInt8.toNat_and]
    exact Nat.and_two_pow_sub_one_eq_mod high.toNat 6
  rw [target, hbits, ← Nat.shiftLeft_add_eq_or_of_lt low.toNat_lt, Nat.shiftLeft_eq]

/-! ### Walks -/

namespace Walk

lemma single (h : Step message place move next) : Walk message place [move] next := .move h .stay

lemma append (h : Walk message place moves next) (rest : Walk message next more last) :
    Walk message place (moves ++ more) last := by
  induction h with
  | stay => exact rest
  | move hstep _ ih => exact .move hstep (ih rest)

/-- A walk that comes back can be made again. -/
lemma repeated (h : Walk message place moves place) (times : Nat) :
    Walk message place (List.replicate times moves).flatten place := by
  induction times with
  | zero => exact .stay
  | succ times ih => exact h.append ih

end Walk

@[simp] lemma pointers_nil : pointers [] = 0 := rfl

@[simp] lemma pointers_label : pointers (.label text :: moves) = pointers moves :=
  List.count_cons_of_ne Move.noConfusion

@[simp] lemma pointers_pointer : pointers (.pointer :: moves) = pointers moves + 1 :=
  List.count_cons_self

lemma pointers_append (moves more : List Move) :
    pointers (moves ++ more) = pointers moves + pointers more :=
  List.count_append

lemma pointers_cons (move : Move) (moves : List Move) :
    pointers (move :: moves) = pointers [move] + pointers moves :=
  pointers_append [move] moves

lemma pointers_repeated (times : Nat) :
    pointers (List.replicate times moves).flatten = times * pointers moves := by
  rw [pointers, List.count_flatten, List.map_replicate, List.sum_replicate_nat]
  rfl

/-- In each move a walk comes two octets further at least, or follows a pointer. -/
lemma Step.progress (h : Step message place move next) :
    2 + min place message.length ≤
      pointers [move] * message.length + min next message.length := by
  cases h with
  | @label n _ hn hzero _ hinside _ =>
      have hpos : n.toNat ≠ 0 := fun h => hzero (UInt8.toNat_inj.1 h)
      simp only [pointers_label, pointers_nil]
      omega
  | pointer _ _ hlow =>
      obtain ⟨hlt, -⟩ := List.getElem?_eq_some_iff.1 hlow
      simp only [pointers_pointer, pointers_nil]
      omega

/-- A walk is not longer than the pointers on it allow. -/
lemma Walk.progress (h : Walk message place moves last) :
    2 * moves.length + min place message.length ≤
      pointers moves * message.length + min last message.length := by
  induction h with
  | stay => simp
  | @move place next last move moves hstep _ ih =>
      have hfirst := hstep.progress
      rw [pointers_cons, Nat.add_mul, List.length_cons]
      omega

/-- A walk that comes back to where it was has followed a pointer. -/
lemma Walk.pointers_pos_of_cycle (h : Walk message place moves place) (hmoves : moves ≠ []) :
    0 < pointers moves := by
  have hlength := List.length_pos_iff.2 hmoves
  have hprogress := h.progress
  by_contra hnone
  rw [Nat.eq_zero_of_not_pos hnone] at hprogress
  omega

/-- A walk with more than `hops` pointers comes to one more pointer after `hops` of them. -/
lemma Walk.exceeds (h : Walk message place moves last) (hhops : hops < pointers moves) :
    Exceeds message hops place := by
  induction h generalizing hops with
  | stay => cases hhops
  | move hstep _ ih =>
      cases hstep with
      | label hn hzero hbits hinside htext =>
          obtain ⟨front, last, high, hfront, hcount, hhigh⟩ := ih (by rwa [pointers_label] at hhops)
          exact ⟨_, last, high, .move (.label hn hzero hbits hinside htext) hfront,
            by rw [pointers_label, hcount], hhigh⟩
      | @pointer high low hhigh hbits hlow =>
          rw [pointers_pointer] at hhops
          cases hops with
          | zero => exact ⟨[], _, high, .stay, rfl, hhigh, hbits⟩
          | succ hops =>
              obtain ⟨front, last, next, hfront, hcount, hnext⟩ := ih (Nat.lt_of_succ_lt_succ hhops)
              exact ⟨_, last, next, .move (.pointer hhigh hbits hlow) hfront,
                by rw [pointers_pointer, hcount], hnext⟩

/-- A walk that comes back follows as many pointers as one likes. -/
lemma Walk.exceeds_of_cycle (h : Walk message place moves last)
    (hcycle : Walk message last more last) (hmore : more ≠ []) (hops : Nat) :
    Exceeds message hops place := by
  have hpos := hcycle.pointers_pos_of_cycle hmore
  refine (h.append (hcycle.repeated (hops + 1))).exceeds ?_
  rw [pointers_append, pointers_repeated]
  exact Nat.lt_of_lt_of_le (Nat.le_mul_of_pos_right _ hpos) (Nat.le_add_left _ _)

/-! ### The labels at the places of a walk -/

lemma drop_eq_cons (h : message[place]? = some n) :
    message.drop place = n :: message.drop (place + 1) := by
  obtain ⟨hlt, rfl⟩ := List.getElem?_eq_some_iff.1 h
  exact List.drop_eq_getElem_cons hlt

lemma labelsAt_of_zero (h : message[place]? = some 0) : labelsAt message hops place = .ok [] := by
  rw [labelsAt, drop_eq_cons h, spell_root]
  rfl

lemma labelsAt_of_pointer (hhigh : message[place]? = some high) (hbits : high &&& 0xC0 = 0xC0) :
    labelsAt message hops place =
      match hops with
      | 0 => .error .compressionLoop
      | hops + 1 =>
        match message[place + 1]? with
        | none => .error .invalidLabel
        | some low => labelsAt message hops (target high low) := by
  rw [labelsAt, drop_eq_cons hhigh, spell_pointer (isPointer_iff_bits.2 hbits)]
  cases hops with
  | zero => rfl
  | succ hops =>
      cases hlow : message[place + 1]? with
      | none =>
          rw [List.drop_eq_nil_of_le (List.getElem?_eq_none_iff.1 hlow)]
          rfl
      | some low =>
          rw [drop_eq_cons hlow]
          simp only [ok_bind, List.nil_append]
          cases labelsAt message hops (target high low) <;> rfl

/-- What is found at a place is the label that is passed, and what is found after it. -/
lemma labelsAt_of_label (h : Step message place (.label text) next) :
    labelsAt message hops place = (text :: ·) <$> labelsAt message hops next := by
  cases h with
  | @label n _ hn hzero hbits hinside htext =>
      have hlength : (Utf8.encode text).length = n.toNat := by
        rw [htext, List.length_take, List.length_drop]
        omega
      have hpointer : ¬ 192 ≤ n.toNat := by
        rwa [← isPointer_iff, isPointer_iff_bits]
      have hwithin : IsLabelWithin 0xBF text := by
        refine ⟨?_, by omega, by omega⟩
        rintro rfl
        exact hzero (UInt8.toNat_inj.1 hlength.symm)
      -- the octets from the place on are those of the label, and those from the next place on
      have hoctets : message.drop place =
          labelOctets text ++ message.drop (place + 1 + n.toNat) := by
        rw [labelOctets, hlength, UInt8.ofNat_toNat, htext, drop_eq_cons hn, List.cons_append,
          ← List.drop_drop (i := n.toNat), List.take_append_drop]
      rw [labelsAt, hoctets, spell_labelOctets_append hwithin, labelsAt]
      rcases spell 0xBF .invalidLabel (message.drop (place + 1 + n.toNat)) with
        e | ⟨labels, rest | ⟨high, rest⟩⟩
      · rfl
      · rfl
      · rcases hops with _ | hops
        · rfl
        · rcases rest with _ | ⟨low, rest⟩
          · rfl
          · change (do return text :: labels ++ (← labelsAt message hops (target high low))) =
              (text :: ·) <$> (do return labels ++ (← labelsAt message hops (target high low)))
            cases labelsAt message hops (target high low) <;> rfl

/-- Where a walk leads the same labels are found as from its first place, but for those that it
passes and with as many pointers less to follow. -/
lemma Walk.labelsAt_eq (h : Walk message place moves last) (hops : Nat) :
    labelsAt message (pointers moves + hops) place =
      (passed moves ++ ·) <$> labelsAt message hops last := by
  induction h with
  | stay =>
      rw [pointers_nil, Nat.zero_add]
      cases labelsAt message hops _ <;> rfl
  | @move place next last move moves hstep _ ih =>
      cases move with
      | label text =>
          rw [pointers_label, labelsAt_of_label hstep, ih]
          cases labelsAt message hops last <;> rfl
      | pointer =>
          cases hstep with
          | pointer hhigh hbits hlow =>
              rw [pointers_pointer, Nat.add_right_comm, labelsAt_of_pointer hhigh hbits, hlow]
              simp only [target_eq_bits, ih, passed]

/-! ### What becomes of a walk -/

lemma labelsAt_of_outside (h : message[place]? = none) :
    labelsAt message hops place = .error .invalidLabel := by
  rw [labelsAt, List.drop_eq_nil_of_le (List.getElem?_eq_none_iff.1 h), spell]
  rfl

/-- There is no label where its length leads out of the message, or where its octets are no text. -/
lemma labelsAt_of_no_label (hn : message[place]? = some n) (hzero : n ≠ 0)
    (hbits : n &&& 0xC0 ≠ 0xC0)
    (hlabel : place + 1 + n.toNat ≤ message.length →
      Utf8.decode? ((message.drop (place + 1)).take n.toNat) = none) :
    labelsAt message hops place = .error .invalidLabel := by
  have hpointer : ¬ isPointer n = true := mt isPointer_iff_bits.1 hbits
  have hlimit : ¬ n.toNat > 0xBF := by
    rw [isPointer_iff] at hpointer
    omega
  obtain ⟨hlt, -⟩ := List.getElem?_eq_some_iff.1 hn
  rw [labelsAt, drop_eq_cons hn, spell, if_neg hzero, if_neg hpointer, if_neg hlimit]
  split
  case isTrue => rfl
  case isFalse hshort =>
      rw [List.length_drop] at hshort
      rw [hlabel (by omega)]
      rfl

lemma Arrives.labelsAt_eq (h : Arrives message hops place labels) :
    labelsAt message hops place = .ok labels := by
  obtain ⟨moves, last, hwalk, hzero, hhops, rfl⟩ := h
  have hfound := hwalk.labelsAt_eq (hops - pointers moves)
  rw [Nat.add_sub_cancel' hhops, labelsAt_of_zero hzero] at hfound
  rw [hfound]
  exact congrArg Except.ok (List.append_nil _)

lemma Exceeds.labelsAt_eq (h : Exceeds message hops place) :
    labelsAt message hops place = .error .compressionLoop := by
  obtain ⟨moves, last, high, hwalk, rfl, hhigh, hbits⟩ := h
  have hfound := hwalk.labelsAt_eq 0
  rwa [labelsAt_of_pointer hhigh hbits] at hfound

/-- The three things that can become of a walk: it arrives, it comes to a pointer too many, or it
cannot go on. -/
def Decided (message : List UInt8) (hops place : Nat) : Prop :=
  (∃ labels, Arrives message hops place labels) ∨ Exceeds message hops place ∨
    labelsAt message hops place = .error .invalidLabel

lemma Decided.of_step (h : Step message place move next) (rest : Decided message hops next) :
    Decided message (pointers [move] + hops) place := by
  rcases rest with ⟨_, moves, last, hwalk, hzero, hhops, -⟩ |
    ⟨moves, last, high, hwalk, rfl, hhigh⟩ | hinvalid
  · refine Or.inl ⟨_, move :: moves, last, .move h hwalk, hzero, ?_, rfl⟩
    rw [pointers_cons]
    omega
  · exact Or.inr (Or.inl ⟨move :: moves, last, high, .move h hwalk, pointers_cons _ _, hhigh⟩)
  · refine Or.inr (Or.inr ?_)
    rw [(Walk.single h).labelsAt_eq, hinvalid]
    rfl

/-- Every walk is decided: a pointer leaves fewer pointers to follow, and a label fewer octets of
the message. -/
lemma decided (message : List UInt8) (hops place : Nat) : Decided message hops place := by
  cases hn : message[place]? with
  | none => exact Or.inr (Or.inr (labelsAt_of_outside hn))
  | some n =>
      by_cases hzero : n = 0
      · rw [hzero] at hn
        exact Or.inl ⟨[], [], place, .stay, hn, Nat.zero_le _, rfl⟩
      by_cases hbits : n &&& 0xC0 = 0xC0
      · -- a pointer
        cases hops with
        | zero => exact Or.inr (Or.inl ⟨[], place, n, .stay, rfl, hn, hbits⟩)
        | succ hops =>
            cases hlow : message[place + 1]? with
            | none => exact Or.inr (Or.inr (by rw [labelsAt_of_pointer hn hbits, hlow]))
            | some low =>
                have hdecided := (decided message hops _).of_step (.pointer hn hbits hlow)
                rwa [pointers_pointer, pointers_nil, Nat.zero_add, Nat.add_comm] at hdecided
      · -- the length of a label
        by_cases hlabel : place + 1 + n.toNat ≤ message.length ∧
            ∃ text, Utf8.decode? ((message.drop (place + 1)).take n.toNat) = some text
        · obtain ⟨hinside, text, htext⟩ := hlabel
          have hstep := Step.label hn hzero hbits hinside (Utf8.decode?_eq_some_iff.1 htext).symm
          have hdecided := (decided message hops _).of_step hstep
          rwa [pointers_label, pointers_nil, Nat.zero_add] at hdecided
        · refine Or.inr (Or.inr (labelsAt_of_no_label hn hzero hbits fun hinside => ?_))
          exact Option.eq_none_iff_forall_ne_some.2 fun text htext => hlabel ⟨hinside, text, htext⟩
termination_by (hops, message.length - place)

lemma labelsAt_eq_ok_iff_arrives :
    labelsAt message hops place = .ok labels ↔ Arrives message hops place labels := by
  refine ⟨fun h => ?_, Arrives.labelsAt_eq⟩
  rcases decided message hops place with ⟨others, harrives⟩ | hexceeds | hinvalid
  · cases h.symm.trans harrives.labelsAt_eq
    exact harrives
  · cases h.symm.trans hexceeds.labelsAt_eq
  · cases h.symm.trans hinvalid

lemma labelsAt_eq_loop_iff_exceeds :
    labelsAt message hops place = .error .compressionLoop ↔ Exceeds message hops place := by
  refine ⟨fun h => ?_, Exceeds.labelsAt_eq⟩
  rcases decided message hops place with ⟨others, harrives⟩ | hexceeds | hinvalid
  · cases h.symm.trans harrives.labelsAt_eq
  · exact hexceeds
  · cases h.symm.trans hinvalid

lemma labelsAt_eq_invalid_iff :
    labelsAt message hops place = .error .invalidLabel ↔
      ¬ ((∃ labels, Arrives message hops place labels) ∨ Exceeds message hops place) := by
  constructor
  · rintro h (⟨labels, harrives⟩ | hexceeds)
    · cases h.symm.trans harrives.labelsAt_eq
    · cases h.symm.trans hexceeds.labelsAt_eq
  · intro h
    rcases decided message hops place with harrives | hexceeds | hinvalid
    · exact absurd (Or.inl harrives) h
    · exact absurd (Or.inr hexceeds) h
    · exact hinvalid

/-! ### There is one walk -/

lemma Step.unique {move' : Move} {next' : Nat} (h : Step message place move next)
    (h' : Step message place move' next') : move = move' ∧ next = next' := by
  cases h with
  | label hn _ hbits _ htext =>
      cases h' with
      | label hn' _ _ _ htext' =>
          cases hn.symm.trans hn'
          exact ⟨congrArg Move.label (Utf8.encode_inj.1 (htext.trans htext'.symm)), rfl⟩
      | pointer hhigh hbits' _ =>
          cases hn.symm.trans hhigh
          exact absurd hbits' hbits
  | pointer hhigh hbits hlow =>
      cases h' with
      | label hn _ hbits' _ _ =>
          cases hhigh.symm.trans hn
          exact absurd hbits hbits'
      | pointer hhigh' _ hlow' =>
          cases hhigh.symm.trans hhigh'
          cases hlow.symm.trans hlow'
          exact ⟨rfl, rfl⟩

/-- Of two walks from one place one is the start of the other. -/
lemma Walk.prefix_or_prefix {moves' : List Move} {last' : Nat} (h : Walk message place moves last)
    (h' : Walk message place moves' last') : moves <+: moves' ∨ moves' <+: moves := by
  induction h generalizing moves' with
  | stay => exact Or.inl (List.nil_prefix)
  | move hstep _ ih =>
      cases h' with
      | stay => exact Or.inr (List.nil_prefix)
      | move hstep' hrest =>
          obtain ⟨rfl, rfl⟩ := hstep.unique hstep'
          simpa only [List.prefix_cons_inj] using ih hrest

/-- The labels that are found at a place are those of the walk from there.

There is one walk from each place, in which a zero octet ends the name, an octet with its two
highest bits set leads with the next octet to the place of their other fourteen bits, and every
other octet is the length of a label, which is in the message in full and is a text.  Labels are
found exactly if the walk comes to the end of the name with 16 pointers at most, and then they are
those that it passed.  There is a loop of pointers exactly if the walk comes to a 17th one: so it is
in particular if the walk comes back to a place where it was, whether there are labels on the way or
not.  In all other cases there is an invalid label.  As far as it is followed, the walk has no more
than half as many moves as the message has octets for each pointer and the first place. -/
theorem labelsAt_iff_walk (message : List UInt8) (place : Nat) :
    (∀ labels, labelsAt message maxHops place = .ok labels ↔ Arrives message 16 place labels) ∧
    (labelsAt message maxHops place = .error .compressionLoop ↔ Exceeds message 16 place) ∧
    (labelsAt message maxHops place = .error .invalidLabel ↔
      ¬ ((∃ labels, Arrives message 16 place labels) ∨ Exceeds message 16 place)) ∧
    (∀ front again cycle, Walk message place front again → Walk message again cycle again →
      cycle ≠ [] → labelsAt message maxHops place = .error .compressionLoop) ∧
    (∀ moves last moves' last', Walk message place moves last → Walk message place moves' last' →
      moves <+: moves' ∨ moves' <+: moves) ∧
    ∀ moves last, Walk message place moves last → pointers moves ≤ 16 →
      2 * moves.length ≤ 17 * message.length := by
  refine ⟨fun labels => labelsAt_eq_ok_iff_arrives, labelsAt_eq_loop_iff_exceeds,
    labelsAt_eq_invalid_iff, fun front again cycle hfront hcycle hne => ?_,
    fun _ _ _ _ => Walk.prefix_or_prefix, fun moves last hwalk hpointers => ?_⟩
  · exact (hfront.exceeds_of_cycle hcycle hne maxHops).labelsAt_eq
  · have hprogress := hwalk.progress
    have hmany := Nat.mul_le_mul_right message.length hpointers
    omega

/-- A label, and a pointer back to it. -/
def roundabout : List UInt8 := [1, 0x61, 0xC0, 0x00]

lemma walk_roundabout : Walk roundabout 0 [.label "a", .pointer] 0 := by
  have hlabel : Step roundabout 0 (.label "a") 2 :=
    .label (n := 1) rfl (by decide) (by decide) (by decide) (by decide)
  have hback : Step roundabout 2 .pointer 0 :=
    .pointer (show roundabout[2]? = some 0xC0 from rfl) (by decide)
      (show roundabout[3]? = some 0 from rfl)
  exact .move hlabel (.single hback)

/-- A label on the way does not save a walk that comes back.  A pointer may lead to the last octet,
and to the middle of a label. -/
theorem labelsAt_iff_walk_roundabout :
    labelsAt roundabout maxHops 0 = .error .compressionLoop ∧
      2 * [Move.label "a", .pointer].length ≤ 17 * roundabout.length ∧
      labelsAt [0xC0, 2, 0] maxHops 0 = .ok [] ∧
      labelsAt [3, 1, 0x61, 0, 0xC0, 1] maxHops 4 = .ok ["a"] := by
  obtain ⟨-, -, -, hcycle, -, hlength⟩ := labelsAt_iff_walk roundabout 0
  have hlast : Step [0xC0, 2, 0] 0 .pointer 2 :=
    .pointer (show [0xC0, 2, 0][0]? = some 0xC0 from rfl) (by decide)
      (show [0xC0, 2, 0][1]? = some 2 from rfl)
  have hmiddle : Step [3, 1, 0x61, 0, 0xC0, 1] 4 .pointer 1 :=
    .pointer (show [3, 1, 0x61, 0, 0xC0, 1][4]? = some 0xC0 from rfl) (by decide)
      (show [3, 1, 0x61, 0, 0xC0, 1][5]? = some 1 from rfl)
  have hlabel : Step [3, 1, 0x61, 0, 0xC0, 1] 1 (.label "a") 3 :=
    .label (n := 1) rfl (by decide) (by decide) (by decide) (by decide)
  exact ⟨hcycle [] 0 _ .stay walk_roundabout (List.cons_ne_nil _ _),
    hlength _ _ walk_roundabout (by decide),
    ((labelsAt_iff_walk _ _).1 _).2 ⟨_, _, .single hlast, rfl, by decide, rfl⟩,
    ((labelsAt_iff_walk _ _).1 _).2 ⟨_, _, .move hmiddle (.single hlabel), rfl, by decide, rfl⟩⟩

end Name

end Dns

end SenderPolicy
