import Mathlib.Data.List.Basic

/-- One attempt to take an item from the front of a stream. -/
inductive Attempt (β α ε : Type) where
  | incomplete
  | bad (e : ε)
  | item (a : α) (rest : List β)

/-- A parser of one item whose verdict is final: more input never revises it. -/
structure StreamParser (β α ε : Type) where
  next : List β → Attempt β α ε
  item_shrinks : ∀ {s a rest}, next s = .item a rest → rest.length < s.length
  item_stable : ∀ {s a rest}, next s = .item a rest → ∀ t, next (s ++ t) = .item a (rest ++ t)
  bad_stable : ∀ {s e}, next s = .bad e → ∀ t, next (s ++ t) = .bad e

namespace StreamParser

variable {β α ε : Type} (p : StreamParser β α ε)

/-- Parse a whole stream: the items in order, then the unread rest or the error. -/
def parse (s : List β) : List α × Except ε (List β) :=
  match _h : p.next s with
  | .incomplete => ([], .ok s)
  | .bad e => ([], .error e)
  | .item a rest => (a :: (parse rest).1, (parse rest).2)
termination_by s.length
decreasing_by all_goals exact p.item_shrinks (by assumption)

variable {p}

theorem parse_incomplete {s : List β} (h : p.next s = .incomplete) : p.parse s = ([], .ok s) := by
  rw [parse]
  split <;> simp_all

theorem parse_bad {s : List β} {e : ε} (h : p.next s = .bad e) : p.parse s = ([], .error e) := by
  rw [parse]
  split <;> simp_all

theorem parse_item {s rest : List β} {a : α} (h : p.next s = .item a rest) :
    p.parse s = (a :: (p.parse rest).1, (p.parse rest).2) := by
  rw [parse]
  split <;> simp_all

/-- Induction along the items of a stream. -/
theorem stream_induction {motive : List β → Prop}
    (incomplete : ∀ s, p.next s = .incomplete → motive s)
    (bad : ∀ s e, p.next s = .bad e → motive s)
    (item : ∀ s a rest, p.next s = .item a rest → motive rest → motive s) (s : List β) :
    motive s := by
  induction hn : s.length using Nat.strongRecOn generalizing s with
  | ind n ih =>
    cases h : p.next s with
    | incomplete => exact incomplete s h
    | bad e => exact bad s e h
    | item a rest => exact item s a rest h (ih _ (hn ▸ p.item_shrinks h) rest rfl)

/-- The rest left by a parse needs more input. -/
theorem parse_ok_next {s rest : List β} (h : (p.parse s).2 = .ok rest) :
    p.next rest = .incomplete := by
  induction s using p.stream_induction with
  | incomplete s hs =>
    rw [parse_incomplete hs] at h
    cases h
    exact hs
  | bad s e hs => rw [parse_bad hs] at h; cases h
  | item s a r hs ih => rw [parse_item hs] at h; exact ih h

/-- A parse stopped at `rest` resumes there when more input arrives. -/
theorem parse_append_ok {s rest : List β} (h : (p.parse s).2 = .ok rest) (t : List β) :
    p.parse (s ++ t) = ((p.parse s).1 ++ (p.parse (rest ++ t)).1, (p.parse (rest ++ t)).2) := by
  induction s using p.stream_induction with
  | incomplete s hs =>
    rw [parse_incomplete hs] at h ⊢
    cases h
    rfl
  | bad s e hs => rw [parse_bad hs] at h; cases h
  | item s a r hs ih =>
    rw [parse_item hs] at h ⊢
    rw [parse_item (p.item_stable hs t), ih h]
    rfl

/-- A stream that has failed has failed for good, with the same items before it. -/
theorem parse_append_error {s : List β} {e : ε} (h : (p.parse s).2 = .error e) (t : List β) :
    p.parse (s ++ t) = ((p.parse s).1, .error e) := by
  induction s using p.stream_induction with
  | incomplete s hs => rw [parse_incomplete hs] at h; cases h
  | bad s e' hs =>
    rw [parse_bad hs] at h ⊢
    cases h
    rw [parse_bad (p.bad_stable hs t)]
  | item s a r hs ih =>
    rw [parse_item hs] at h ⊢
    rw [parse_item (p.item_stable hs t), ih h]

/-- What a stream has been parsed into stays when more input arrives. -/
theorem parse_prefix (s t : List β) : (p.parse s).1 <+: (p.parse (s ++ t)).1 := by
  cases h : (p.parse s).2 with
  | ok rest =>
    rw [parse_append_ok h]
    exact List.prefix_append _ _
  | error e =>
    have hsame : (p.parse (s ++ t)).1 = (p.parse s).1 := by rw [parse_append_error h]
    exact ⟨[], by rw [List.append_nil, hsame]⟩

theorem parse_nil : (p.parse []).1 = [] := by
  cases h : p.next [] with
  | incomplete => rw [parse_incomplete h]
  | bad e => rw [parse_bad h]
  | item a rest => exact absurd (p.item_shrinks h) (Nat.not_lt_zero _)

/-- Feed a stream chunk by chunk, keeping the unread rest between chunks. A chunk in which the
parse fails yields the error alone: items found before it in that chunk are dropped. -/
def feed (p : StreamParser β α ε) : List β → List (List β) → List α × Except ε (List β)
  | rest, [] => ([], .ok rest)
  | rest, c :: cs =>
    match p.parse (rest ++ c) with
    | (as, .ok rest') => (as ++ (p.feed rest' cs).1, (p.feed rest' cs).2)
    | (_, .error e) => ([], .error e)

theorem feed_cons_ok {rest rest' c : List β} (h : (p.parse (rest ++ c)).2 = .ok rest')
    (cs : List (List β)) :
    p.feed rest (c :: cs) =
      ((p.parse (rest ++ c)).1 ++ (p.feed rest' cs).1, (p.feed rest' cs).2) := by
  rw [feed]
  split <;> simp_all

theorem feed_cons_error {rest c : List β} {e : ε} (h : (p.parse (rest ++ c)).2 = .error e)
    (cs : List (List β)) : p.feed rest (c :: cs) = ([], .error e) := by
  rw [feed]
  split <;> simp_all

/-- How a stream is cut decides neither its outcome nor, without an error, its items. -/
theorem feed_eq_parse {rest : List β} (hr : p.next rest = .incomplete) (cs : List (List β)) :
    (p.feed rest cs).2 = (p.parse (rest ++ cs.flatten)).2 ∧
      ∀ r, (p.feed rest cs).2 = .ok r →
        (p.feed rest cs).1 = (p.parse (rest ++ cs.flatten)).1 := by
  induction cs generalizing rest with
  | nil => simp [feed, parse_incomplete hr]
  | cons c cs ih =>
    rw [List.flatten_cons, ← List.append_assoc]
    cases h : (p.parse (rest ++ c)).2 with
    | ok rest' =>
      obtain ⟨hout, hitems⟩ := ih (parse_ok_next h)
      rw [feed_cons_ok h, parse_append_ok h]
      exact ⟨hout, fun r hr => by rw [hitems r hr]⟩
    | error e =>
      rw [feed_cons_error h, parse_append_error h]
      exact ⟨rfl, fun r hr => by cases hr⟩

/-- An encoder of which the parser is the exact inverse on accepted items. -/
structure Codec (p : StreamParser β α ε) (Accepts : α → Prop) (encode : α → List β) : Prop where
  next_encode : ∀ {a}, Accepts a → ∀ t, p.next (encode a ++ t) = .item a t
  item_encode : ∀ {s a rest}, p.next s = .item a rest → Accepts a ∧ s = encode a ++ rest

namespace Codec

variable {Accepts : α → Prop} {encode : α → List β}

/-- What was parsed is accepted and re-encodes to what was read. -/
theorem parse_sound (c : Codec p Accepts encode) (s : List β) :
    (∀ a ∈ (p.parse s).1, Accepts a) ∧
      ∀ rest, (p.parse s).2 = .ok rest → s = (p.parse s).1.flatMap encode ++ rest := by
  induction s using p.stream_induction with
  | incomplete s hs => simp [parse_incomplete hs]
  | bad s e hs => simp [parse_bad hs]
  | item s a r hs ih =>
    obtain ⟨ha, he⟩ := c.item_encode hs
    rw [parse_item hs]
    refine ⟨by simpa [ha] using ih.1, fun rest h => ?_⟩
    have hr := ih.2 rest h
    rw [he, List.flatMap_cons, List.append_assoc, ← hr]

/-- Encodings of accepted items in front of a stream are parsed off it exactly. -/
theorem parse_encode (c : Codec p Accepts encode) {as : List α} (h : ∀ a ∈ as, Accepts a)
    (t : List β) :
    p.parse (as.flatMap encode ++ t) = (as ++ (p.parse t).1, (p.parse t).2) := by
  induction as with
  | nil => rfl
  | cons a as ih =>
    have ha : Accepts a := h a (by simp)
    have hrest := ih (fun b hb => h b (by simp [hb]))
    rw [List.flatMap_cons, List.append_assoc, parse_item (c.next_encode ha _), hrest]
    rfl

/-- The part of a stream of encoded items that has arrived holds the first of them. -/
theorem parse_of_prefix (c : Codec p Accepts encode) {as : List α} (h : ∀ a ∈ as, Accepts a)
    {s : List β} (hs : s <+: as.flatMap encode) : (p.parse s).1 <+: as := by
  obtain ⟨t, ht⟩ := hs
  have hwhole := c.parse_encode h []
  rw [List.append_nil, parse_nil, List.append_nil] at hwhole
  have hprefix := parse_prefix (p := p) s t
  rwa [ht, hwhole] at hprefix

/-- A stream of encoded items ends badly. Where reading has come to some point of it, the parser fails
on the rest, and it has found all the items exactly when they have all been read. -/
theorem items_eq_iff (c : Codec p Accepts encode) {as items : List α} {read rest more bad : List β}
    {e : ε} (hall : ∀ a ∈ as, Accepts a) (hbad : p.next bad = .bad e)
    (hread : p.parse read = (items, .ok rest)) (hs : read ++ more = as.flatMap encode ++ bad) :
    (p.parse (rest ++ more)).2 = .error e ∧
      (items = as ↔ (as.flatMap encode).length ≤ read.length) := by
  have hwhole : p.parse (read ++ more) = (as, .error e) := by
    rw [hs, c.parse_encode hall, parse_bad hbad, List.append_nil]
  have hresume := parse_append_ok (s := read) (by rw [hread]) more
  rw [hwhole, hread] at hresume
  obtain ⟨htail, herror⟩ := Prod.mk.inj hresume
  refine ⟨herror.symm, fun heq => ?_, fun hlen => ?_⟩
  · have hsound := (c.parse_sound read).2 rest (by rw [hread])
    rw [hread, heq] at hsound
    rw [hsound, List.length_append]
    exact Nat.le_add_right _ _
  · -- the point lies behind the items, so the parser finds them and perhaps more
    have hpre : as.flatMap encode <+: read ++ more := by
      rw [hs]
      exact List.prefix_append _ _
    obtain ⟨extra, hextra⟩ :=
      List.prefix_of_prefix_length_le hpre (List.prefix_append read more) hlen
    have hfound := c.parse_encode hall extra
    rw [hextra, hread] at hfound
    have hlonger : items = as ++ (p.parse extra).1 := (Prod.mk.inj hfound).1
    rw [hlonger, List.append_assoc, List.self_eq_append_right] at htail
    rw [hlonger, (List.append_eq_nil_iff.mp htail).1, List.append_nil]

end Codec

end StreamParser
