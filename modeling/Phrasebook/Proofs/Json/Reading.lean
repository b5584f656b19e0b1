import Phrasebook.Proofs.Json.Parts

/-!
# Phrasebook.Proofs.Json.Reading

What reading makes of any text, with room for so many levels.

A text is read exactly if it is JSON within the limits (`read_eq_ok_iff`), it is refused for a number
exactly if it is JSON up to one that is too long (`read_eq_longNumeral_iff`), and for its depth exactly
if it is JSON up to something for which no level is left, or holds a flaw so deep that no level is left
for the report (`read_eq_tooDeep_iff`). Every other text is malformed. That what is read is spelled is
shown along the recursion of the readers (`Judged`); that what is spelled is read, along the spelling
(`Part.Reached`). A level is taken by a bracket or a brace, so a text with few of them is never too
deep (`room_lt_of_tooDeep`).
-/

namespace Phrasebook

namespace Json

/-! ## Levels and brackets -/

/-- What opens an array or an object, and takes a level. -/
def isBracket (c : Char) : Bool := c = '[' || c = '\x7b'

/-- A part that stops for want of a level has a bracket for each level that there was. -/
theorem Breaks.room_le {d : Descent} {marks room : Nat} {k : Kind} {s : List Char}
    (h : Breaks (.tooDeep d) marks room k s) : room ≤ s.countP isBracket := by
  induction h with
  | here h =>
    cases h with
    | @word room s v hs hroom =>
      have : wordLevels v ≤ 1 := by cases v <;> simp [wordLevels]
      omega
    | array | object => exact Nat.zero_le _
  | array hw hs ih | object hw hs ih =>
    simp only [List.countP_cons, List.countP_append, isBracket]
    simp
    omega
  | item hs ih => exact ih
  | laterItem | member | laterMember =>
    simp only [List.countP_append, List.countP_cons]
    omega

/-! ## What is read is spelled -/

section Judged

variable {α : Type}

/-- What is read is spelled in front of what is left, and where something stops the reading, the text
is spelled up to it. A flaw has a bracket in front of it for each level that is taken. -/
def Judged (marks room : Nat) (part : α → Part) (kind : Kind) (s : List Char) :
    Except Failure (α × List Char) → Prop
  | .ok (a, r) => ∃ t, s = t ++ r ∧ Spells Short marks room (part a) t
  | .error (.noValue _) => True
  | .error (.flawed _ left) => room ≤ left + s.countP isBracket
  | .error e => ∃ t r, s = t ++ r ∧ Breaks e marks room kind t ∧ e.Leaves r

/-- What is read behind a text that is read already. -/
theorem Judged.behind {β : Type} {marks room room' : Nat} {part : α → Part} {part' : β → Part}
    {kind kind' : Kind} {s : List Char} {x : Except Failure (α × List Char)}
    (h : Judged marks room part kind s x) {front whole : List Char} (hwhole : whole = front ++ s)
    (f : α → β)
    (hspells : ∀ {a t}, Spells Short marks room (part a) t →
      Spells Short marks room' (part' (f a)) (front ++ t))
    (hbreaks : ∀ {e t}, Breaks e marks room kind t → Breaks e marks room' kind' (front ++ t))
    (hroom : room' ≤ room + front.countP isBracket) :
    Judged marks room' part' kind' whole (mapRead f x) := by
  subst hwhole
  rcases x with (left | ⟨flaw, left⟩ | digits | descent) | ⟨a, r⟩
  · trivial
  · simp only [mapRead, Judged, List.countP_append] at h ⊢
    omega
  · obtain ⟨t, r, rfl, ht, hr⟩ := h
    exact ⟨front ++ t, r, (List.append_assoc _ _ _).symm, hbreaks ht, hr⟩
  · obtain ⟨t, r, rfl, ht, hr⟩ := h
    exact ⟨front ++ t, r, (List.append_assoc _ _ _).symm, hbreaks ht, hr⟩
  · obtain ⟨t, rfl, ht⟩ := h
    exact ⟨front ++ t, (List.append_assoc _ _ _).symm, hspells ht⟩

/-- Where a part of what is read fails, so does the whole. -/
theorem Judged.fail {β : Type} {marks room : Nat} {part : α → Part} {part' : β → Part}
    {kind kind' : Kind} {s : List Char} {e : Failure} (h : Judged marks room part kind s (.error e))
    {front whole : List Char} (hwhole : whole = front ++ s)
    (hbreaks : ∀ {t}, Breaks e marks room kind t → Breaks e marks room kind' (front ++ t)) :
    Judged marks room part' kind' whole (.error e : Except Failure (β × List Char)) := by
  subst hwhole
  cases e with
  | noValue left => trivial
  | flawed flaw left =>
    simp only [Judged, List.countP_append] at h ⊢
    omega
  | longNumeral digits | tooDeep descent =>
    obtain ⟨t, r, rfl, ht, hr⟩ := h
    exact ⟨front ++ t, r, (List.append_assoc _ _ _).symm, hbreaks ht, hr⟩

end Judged

/-- A number, with its sign in front. -/
theorem judged_unsigned {marks room : Nat} {negative : Bool} (sign : List Char)
    (hspells : ∀ {v t}, Unsigned Short negative v t → Spells Short marks room (.value v) (sign ++ t))
    (hstops : ∀ {ds}, Whole ds → Numeral.maxDigits < ds.length →
      Stops (.longNumeral ds.length) room (sign ++ ds)) (s : List Char) :
    Judged marks room Part.value .value (sign ++ s) (unsigned negative s).outcome := by
  rcases h : (unsigned negative s).outcome with e | ⟨v, r⟩
  · rcases unsigned_error h with ⟨left, rfl⟩ | ⟨digits, rfl⟩
    · trivial
    · obtain ⟨ds, r, rfl, hds, rfl, hlong, hr⟩ := unsigned_longNumeral h
      exact ⟨sign ++ ds, r, (List.append_assoc _ _ _).symm, .here (hstops hds hlong),
        fun _ _ => hr⟩
  · obtain ⟨t, rfl, ht⟩ := unsigned_of_outcome h
    exact ⟨sign ++ t, (List.append_assoc _ _ _).symm, hspells ht⟩

theorem judged_scalar (marks room : Nat) (s : List Char) :
    Judged marks room Part.value .value s (scalar room s).outcome := by
  cases s with
  | nil => trivial
  | cons c s =>
    rw [outcome_scalar]
    split
    · rename_i w v hfind
      have hw := List.mem_of_find?_eq_some hfind
      have hprefix := List.find?_some hfind
      rw [List.isPrefixOf_iff_prefix] at hprefix
      obtain ⟨t, ht⟩ := hprefix
      have hne : w ≠ [] := by
        rintro rfl
        revert hw
        simp [words]
      obtain ⟨d, w, rfl⟩ := List.exists_cons_of_ne_nil hne
      obtain ⟨rfl, rfl⟩ := List.cons.inj ht
      split_ifs with hroom
      · refine ⟨d :: w, t, rfl, .here (.word hw hroom), ?_⟩
        intro digits hdigits
        cases hdigits
      · exact ⟨d :: w, by simp, .word hw (Nat.le_of_not_lt hroom)⟩
    · split_ifs with hc
      · subst hc
        exact judged_unsigned ['-'] .negative .negative s
      · exact judged_unsigned [] .natural .natural (c :: s)

/-- A name that is read is spelled, with its colon, in front of the value. -/
theorem exists_name (marks : Nat) {s a b : List Char} {gs : List Glyph}
    (h : (textBody s s).outcome = .ok (gs, a)) (hb : skip a = ':' :: b) :
    ∃ name, Name marks (tell marks gs) name ∧ '"' :: s = name ++ skip b := by
  obtain ⟨k, hk, hinside⟩ := inQuotes_of_textBody h
  obtain ⟨w, w', hw, hw', ha⟩ := exists_space_around hb
  exact ⟨_, Name.mk hinside hw hw', by rw [hk, ha]; simp⟩

mutual

theorem judged_value (marks room : Nat) (s : List Char) :
    Judged marks room Part.value .value s (value marks room s).outcome := by
  by_cases htext : ∃ t, s = '"' :: t
  · obtain ⟨s, rfl⟩ := htext
    rw [outcome_value_text]
    rcases h : (textBody s s).outcome with e | ⟨gs, r⟩
    · exact Nat.le_add_right _ _
    · obtain ⟨t, ht, hinside⟩ := inQuotes_of_textBody h
      exact ⟨'"' :: t, congrArg ('"' :: ·) ht, .text hinside⟩
  by_cases harray : ∃ t, s = '[' :: t
  · obtain ⟨t, hst⟩ := harray
    obtain ⟨w, hw, ht⟩ := exists_space t
    have hwhole : '[' :: t = '[' :: w ++ skip t := congrArg ('[' :: ·) ht
    have hlength : (skip t).length < s.length := by
      rw [hst]
      exact Nat.lt_succ_of_le (length_skip_le t)
    rw [hst, outcome_value_array]
    cases room with
    | zero => exact ⟨['['], t, rfl, .here .array, nofun⟩
    | succ room =>
      rw [if_neg (Nat.succ_ne_zero room), Nat.add_sub_cancel]
      split
      · rename_i r h
        rw [h] at hwhole
        exact ⟨'[' :: (w ++ [']']), by rw [hwhole]; simp, .noItems hw⟩
      · exact (judged_items marks room (skip t)).behind hwhole Value.array (.array hw) (.array hw)
          (by simp [isBracket])
  by_cases hobject : ∃ t, s = '\x7b' :: t
  · obtain ⟨t, hst⟩ := hobject
    obtain ⟨w, hw, ht⟩ := exists_space t
    have hwhole : '\x7b' :: t = '\x7b' :: w ++ skip t := congrArg ('\x7b' :: ·) ht
    have hlength : (skip t).length < s.length := by
      rw [hst]
      exact Nat.lt_succ_of_le (length_skip_le t)
    rw [hst, outcome_value_object]
    cases room with
    | zero => exact ⟨['\x7b'], t, rfl, .here .object, nofun⟩
    | succ room =>
      rw [if_neg (Nat.succ_ne_zero room), Nat.add_sub_cancel]
      split
      · rename_i r h
        rw [h] at hwhole
        exact ⟨'\x7b' :: (w ++ ['\x7d']), by rw [hwhole]; simp, .noMembers hw⟩
      · exact (judged_members marks room [] (skip t)).behind hwhole Value.object (.object hw)
          (.object hw) (by simp [isBracket])
  rw [value.eq_4 marks room s (fun t h => htext ⟨t, h⟩) (fun t h => harray ⟨t, h⟩)
    (fun t h => hobject ⟨t, h⟩)]
  exact judged_scalar marks room s
termination_by (s.length, 1)

theorem judged_items (marks room : Nat) (s : List Char) :
    Judged marks room Part.items .items s (items marks room s).outcome := by
  have hvalue := judged_value marks room s
  rw [outcome_items]
  generalize (value marks room s).outcome = x at hvalue
  rcases x with e | ⟨v, r⟩
  · exact hvalue.fail (List.nil_append s).symm .item
  · obtain ⟨t, hs, ht⟩ := hvalue
    dsimp only
    split
    · rename_i r' h
      obtain ⟨w, hw, hr⟩ := exists_space r
      rw [h] at hr
      exact ⟨t ++ (w ++ [']']), by rw [hs, hr]; simp, .lastItem ht hw⟩
    · rename_i r' h
      obtain ⟨w, w', hw, hw', hr⟩ := exists_space_around h
      have hwhole : s = t ++ (w ++ ',' :: w') ++ skip r' := by
        rw [hs, hr]
        simp
      have hlength : (skip r').length < s.length := by
        rw [hwhole]
        simp
        omega
      refine (judged_items marks room (skip r')).behind hwhole (v :: ·) (fun {vs u} hu => ?_)
        (fun {e u} hu => ?_) (Nat.le_add_right _ _)
      · simpa using .item ht hw hw' hu
      · simpa using .laterItem ht hw hw' hu
    · exact Nat.le_add_right _ _
termination_by (s.length, 2)

theorem judged_members (marks room : Nat) (before : Members Value) (s : List Char) :
    Judged marks room (Part.members before) .members s (members marks room before s).outcome := by
  by_cases hquote : ∃ t, s = '"' :: t
  · obtain ⟨s', hst⟩ := hquote
    rw [hst, outcome_members]
    rcases h : (textBody s' s').outcome with e | ⟨gs, a⟩
    · exact Nat.le_add_right _ _
    dsimp only
    split
    · rename_i b hb
      obtain ⟨name, hname, hs⟩ := exists_name marks h hb
      have hlength : (skip b).length < s.length := by
        rw [hst, hs, List.length_append]
        exact Nat.lt_add_of_pos_left hname.opens.length_pos
      have hvalue := judged_value marks room (skip b)
      generalize (value marks room (skip b)).outcome = x at hvalue
      rcases x with e | ⟨v, d⟩
      · exact hvalue.fail hs (.member hname)
      · obtain ⟨t, ht, hspells⟩ := hvalue
        dsimp only
        split
        · rename_i r h
          obtain ⟨u, hu, hd⟩ := exists_space d
          rw [h] at hd
          exact ⟨name ++ (t ++ (u ++ ['\x7d'])), by rw [hs, ht, hd]; simp,
            .lastMember hname hspells hu⟩
        · rename_i r h
          obtain ⟨u, u', hu, hu', hd⟩ := exists_space_around h
          have hwhole : '"' :: s' = name ++ (t ++ (u ++ ',' :: u')) ++ skip r := by
            rw [hs, ht, hd]
            simp
          have hlength' : (skip r).length < s.length := by
            rw [hst, hwhole]
            simp
            omega
          have hrest := judged_members marks room (Pairs.put (tell marks gs) v before) (skip r)
          rw [← mapRead_id (members _ _ _ _).outcome]
          refine hrest.behind hwhole id (fun {all x} hx => ?_) (fun {e x} hx => ?_)
            (Nat.le_add_right _ _)
          · simpa using .member hname hspells hu hu' hx
          · simpa using .laterMember hname hspells hu hu' hx
        · exact Nat.le_add_right _ _
    · exact Nat.le_add_right _ _
  · rw [members.eq_2 marks room before s (fun t h => hquote ⟨t, h⟩)]
    exact Nat.le_add_right _ _
termination_by (s.length, 0)

end

/-! ## What is spelled is read -/

/-- Why what is spelled with room for so many levels is not read with room for `room`. -/
inductive Unread (fits : Nat → Prop) (spelled room : Nat) : Failure → Prop
  | longNumeral {digits : Nat} (hlong : Numeral.maxDigits < digits) (hfits : fits digits) :
      Unread fits spelled room (.longNumeral digits)
  | tooDeep {descent : Descent} (hroom : room < spelled) :
      Unread fits spelled room (.tooDeep descent)

/-- The outcome for what is spelled: it is read, or it goes beyond a limit. -/
def Reaches {α : Type} (fits : Nat → Prop) (spelled room : Nat) (a : α) (r : List Char)
    (x : Except Failure (α × List Char)) : Prop :=
  x = .ok (a, r) ∨ ∃ e, x = .error e ∧ Unread fits spelled room e

section Reaches

variable {α β : Type} {fits : Nat → Prop} {spelled room : Nat} {a : α} {r : List Char}
  {x : Except Failure (α × List Char)}

theorem Reaches.map (h : Reaches fits spelled room a r x) (f : α → β) :
    Reaches fits spelled room (f a) r (mapRead f x) := by
  rcases h with rfl | ⟨e, rfl, he⟩
  · exact .inl rfl
  · exact .inr ⟨e, rfl, he⟩

/-- One level further out. -/
theorem Reaches.succ (h : Reaches fits spelled room a r x) :
    Reaches fits (spelled + 1) (room + 1) a r x := by
  rcases h with rfl | ⟨e, rfl, he⟩
  · exact .inl rfl
  · refine .inr ⟨e, rfl, ?_⟩
    cases he with
    | longNumeral hlong hfits => exact .longNumeral hlong hfits
    | tooDeep hroom => exact .tooDeep (Nat.succ_lt_succ hroom)

/-- What is spelled within the limits is read. -/
theorem Reaches.eq_ok (h : Reaches Short room room a r x) : x = .ok (a, r) := by
  rcases h with h | ⟨e, -, ⟨hlong, hshort⟩ | hroom⟩
  · exact h
  · exact absurd hshort (Nat.not_le_of_lt hlong)
  · exact absurd hroom (Nat.lt_irrefl room)

end Reaches

/-- What reading makes of a spelling, whatever stands behind it and however many levels there are. -/
def Part.Reached (fits : Nat → Prop) (marks spelled : Nat) : Part → List Char → Prop
  | .value v, s => ∀ room r, ¬Continues r →
      Reaches fits spelled room v r (Json.value marks room (s ++ r)).outcome
  | .items vs, s => ∀ room r,
      Reaches fits spelled room vs r (Json.items marks room (s ++ r)).outcome
  | .members before all, s => ∀ room r,
      Reaches fits spelled room all r (Json.members marks room before (s ++ r)).outcome

/-- What is spelled is read, up to what goes beyond a limit. -/
theorem Spells.reached {fits : Nat → Prop} {marks spelled : Nat} {p : Part} {s : List Char}
    (h : Spells fits marks spelled p s) : p.Reached fits marks spelled s := by
  induction h with
  | word h hspelled =>
    intro room r hr
    rw [outcome_value_word h]
    split_ifs with hroom
    · exact .inr ⟨_, rfl, .tooDeep (Nat.lt_of_lt_of_le hroom hspelled)⟩
    · exact .inl rfl
  | natural h =>
    intro room r hr
    obtain ⟨d, t, rfl, hd⟩ := h.head_isDigit
    rw [List.cons_append, outcome_value_digit hd]
    rcases outcome_of_unsigned h hr with hread | ⟨digits, hread, hlong, hfits⟩
    · exact .inl hread
    · exact .inr ⟨_, hread, .longNumeral hlong hfits⟩
  | negative h =>
    intro room r hr
    obtain ⟨d, t, rfl, hd⟩ := h.head_isDigit
    rw [List.cons_append, List.cons_append, outcome_value_sign hd]
    rcases outcome_of_unsigned h hr with hread | ⟨digits, hread, hlong, hfits⟩
    · exact .inl hread
    · exact .inr ⟨_, hread, .longNumeral hlong hfits⟩
  | text h =>
    intro room r hr
    rw [List.cons_append, outcome_value_text, textBody_of_inQuotes h]
    exact .inl rfl
  | noItems hw =>
    intro room r hr
    rw [List.cons_append, List.append_assoc, outcome_value_array, skip_append hw]
    split_ifs with hroom
    · exact .inr ⟨_, rfl, .tooDeep (hroom ▸ Nat.succ_pos _)⟩
    · exact .inl rfl
  | array hw hs ih =>
    intro room r hr
    rw [List.cons_append, List.append_assoc]
    cases room with
    | zero =>
      rw [outcome_value_array]
      exact .inr ⟨_, rfl, .tooDeep (Nat.succ_pos _)⟩
    | succ room =>
      rw [outcome_value_items hw (hs.opens.append r)]
      exact ((ih room r).map _).succ
  | noMembers hw =>
    intro room r hr
    rw [List.cons_append, List.append_assoc, outcome_value_object, skip_append hw]
    split_ifs with hroom
    · exact .inr ⟨_, rfl, .tooDeep (hroom ▸ Nat.succ_pos _)⟩
    · exact .inl rfl
  | object hw hs ih =>
    intro room r hr
    rw [List.cons_append, List.append_assoc]
    cases room with
    | zero =>
      rw [outcome_value_object]
      exact .inr ⟨_, rfl, .tooDeep (Nat.succ_pos _)⟩
    | succ room =>
      rw [outcome_value_members hw (hs.opens.append r)]
      exact ((ih room r).map _).succ
  | @lastItem _ s w v hs hw ih =>
    intro room r
    rw [List.append_assoc, List.append_assoc]
    rcases ih room _ (not_continues_space hw (.inr (.inl rfl)) r) with h | ⟨e, h, he⟩
    · exact .inl (outcome_items_close hw h)
    · exact .inr ⟨e, outcome_items_error h, he⟩
  | @item _ s w w' t v vs hs hw hw' ht ih ih' =>
    intro room r
    have happend : s ++ (w ++ ',' :: (w' ++ t)) ++ r = s ++ (w ++ ',' :: (w' ++ (t ++ r))) := by simp
    rw [happend]
    rcases ih room _ (not_continues_space hw (.inl rfl) _) with h | ⟨e, h, he⟩
    · rw [outcome_items_more hw hw' (ht.opens.append r) h]
      exact (ih' room r).map _
    · exact .inr ⟨e, outcome_items_error h, he⟩
  | @lastMember _ before k s w key v hk hs hw ih =>
    intro room r
    have happend : k ++ (s ++ (w ++ ['\x7d'])) ++ r = k ++ (s ++ (w ++ '\x7d' :: r)) := by simp
    have hopens := hs.opens.append (w ++ '\x7d' :: r)
    rw [happend]
    rcases ih room _ (not_continues_space hw (.inr (.inr rfl)) r) with h | ⟨e, h, he⟩
    · exact .inl (outcome_members_close hk before hopens hw h)
    · exact .inr ⟨e, outcome_members_error hk before hopens h, he⟩
  | @member _ before all k s w w' t key v hk hs hw hw' ht ih ih' =>
    intro room r
    have happend : k ++ (s ++ (w ++ ',' :: (w' ++ t))) ++ r =
        k ++ (s ++ (w ++ ',' :: (w' ++ (t ++ r)))) := by simp
    have hopens := hs.opens.append (w ++ ',' :: (w' ++ (t ++ r)))
    rw [happend]
    rcases ih room _ (not_continues_space hw (.inl rfl) _) with h | ⟨e, h, he⟩
    · rw [outcome_members_more hk before hopens hw hw' (ht.opens.append r) h]
      exact ih' room r
    · exact .inr ⟨e, outcome_members_error hk before hopens h, he⟩

/-- What reading makes of a text that is broken off, whatever stands behind it. -/
def Kind.Refused (e : Failure) (marks room : Nat) : Kind → List Char → Prop
  | .value, s => ∀ r, e.Leaves r → (Json.value marks room (s ++ r)).outcome = .error e
  | .items, s => ∀ r, e.Leaves r → (Json.items marks room (s ++ r)).outcome = .error e
  | .members, s => ∀ r, e.Leaves r → ∀ before,
      (Json.members marks room before (s ++ r)).outcome = .error e

theorem Stops.refused {e : Failure} {room : Nat} {s : List Char} (h : Stops e room s)
    (marks : Nat) :
    Kind.value.Refused e marks room s := by
  cases h with
  | natural hds hlong =>
    intro r hr
    obtain ⟨d, t, rfl, hd⟩ := hds.head_isDigit
    rw [List.cons_append, outcome_value_digit hd, ← List.cons_append,
      outcome_unsigned_whole false hds (hr _ rfl), if_pos hlong]
  | negative hds hlong =>
    intro r hr
    obtain ⟨d, t, rfl, hd⟩ := hds.head_isDigit
    rw [List.cons_append, List.cons_append, outcome_value_sign hd, ← List.cons_append,
      outcome_unsigned_whole true hds (hr _ rfl), if_pos hlong]
  | word h hroom =>
    intro r hr
    rw [outcome_value_word h, if_pos hroom]
  | array => exact fun r hr => outcome_value_array marks 0 r
  | object => exact fun r hr => outcome_value_object marks 0 r

theorem Breaks.refused {e : Failure} {marks room : Nat} {k : Kind} {s : List Char}
    (h : Breaks e marks room k s) : k.Refused e marks room s := by
  induction h with
  | here h => exact h.refused _
  | array hw hs ih =>
    intro r hr
    rw [List.cons_append, List.append_assoc, outcome_value_items hw (hs.opens.append r), ih r hr]
    rfl
  | object hw hs ih =>
    intro r hr
    rw [List.cons_append, List.append_assoc, outcome_value_members hw (hs.opens.append r),
      ih r hr []]
    rfl
  | item hs ih => exact fun r hr => outcome_items_error (ih r hr)
  | @laterItem room s w w' t v hs hw hw' ht ih =>
    intro r hr
    have happend : s ++ (w ++ ',' :: (w' ++ t)) ++ r = s ++ (w ++ ',' :: (w' ++ (t ++ r))) := by simp
    have h := (hs.reached room _ (not_continues_space hw (.inl rfl) (w' ++ (t ++ r)))).eq_ok
    rw [happend, outcome_items_more hw hw' (ht.opens.append r) h, ih r hr]
    rfl
  | member hk hs ih =>
    intro r hr before
    rw [List.append_assoc]
    exact outcome_members_error hk before (hs.opens.append r) (ih r hr)
  | @laterMember room k s w w' t key v hk hs hw hw' ht ih =>
    intro r hr before
    have happend : k ++ (s ++ (w ++ ',' :: (w' ++ t))) ++ r =
        k ++ (s ++ (w ++ ',' :: (w' ++ (t ++ r)))) := by simp
    have h := (hs.reached room _ (not_continues_space hw (.inl rfl) (w' ++ (t ++ r)))).eq_ok
    rw [happend, outcome_members_more hk before (hs.opens.append _) hw hw' (ht.opens.append r) h,
      ih r hr]

/-! ## Whole texts -/

variable {room : Nat} {s : List Char}

/-- The value of a text that is JSON is reached, with nothing but white space behind it. -/
theorem IsJson.reached {fits : Nat → Prop} {spelled : Nat} {v : Value} (h : IsJson fits spelled v s)
    (room : Nat) :
    ∃ r, skip r = [] ∧
      Reaches fits spelled room v r (value (marksFor s) room (skip s)).outcome := by
  obtain ⟨w, t, w', hs, hw, ht, hw'⟩ := h
  have hfront : skip s = t ++ w' := by rw [hs, (ht.opens.append w').skip_append hw]
  have hback : skip w' = [] := by
    rw [← List.append_nil w', skip_append hw']
    rfl
  exact ⟨w', hback, hfront ▸ ht.reached room w' hw'.not_continues⟩

/-- JSON is not malformed, whatever the limits under which it is spelled. -/
theorem not_isJson_of_malformed {m : Malformation} (h : read room s = .error (.malformed m))
    (fits : Nat → Prop) (spelled : Nat) (v : Value) : ¬IsJson fits spelled v s := by
  intro hjson
  obtain ⟨r, hr, hvalue | ⟨e, hvalue, he⟩⟩ := hjson.reached room
  · rw [read_eq_ok_iff_value.2 ⟨r, hvalue, hr⟩] at h
    cases h
  · have hread : (∀ m, e.refusal s ≠ .malformed m) → read room s = .error (e.refusal s) :=
      fun hne => (read_eq_error_iff_value hne).2 ⟨e, hvalue, rfl⟩
    cases he with
    | longNumeral | tooDeep =>
      rw [hread fun _ => nofun] at h
      cases h

/-- **A text is read exactly if it is JSON, within the levels and with no whole number that is too
long.** -/
theorem read_eq_ok_iff {v : Value} : read room s = .ok v ↔ IsJson Short room v s := by
  rw [read_eq_ok_iff_value]
  constructor
  · rintro ⟨r, hvalue, hr⟩
    obtain ⟨w, hw, hs⟩ := exists_space s
    obtain ⟨w', hw', hr'⟩ := exists_space r
    have hjudged := judged_value (marksFor s) room (skip s)
    rw [hvalue] at hjudged
    obtain ⟨t, ht, hspells⟩ := hjudged
    rw [hr, List.append_nil] at hr'
    exact ⟨w, t, w', by rw [hs, ht, hr'], hw, hspells, hw'⟩
  · intro h
    obtain ⟨r, hr, hvalue⟩ := h.reached room
    exact ⟨r, hvalue.eq_ok, hr⟩

/-- The value fails with what stops the reading exactly if the text is broken off there. -/
theorem value_eq_error_iff {e : Failure}
    (he : (∃ digits, e = .longNumeral digits) ∨ ∃ descent, e = .tooDeep descent) :
    (value (marksFor s) room (skip s)).outcome = .error e ↔ IsBroken e room s := by
  constructor
  · intro hvalue
    obtain ⟨w, hw, hs⟩ := exists_space s
    have hjudged := judged_value (marksFor s) room (skip s)
    rw [hvalue] at hjudged
    rcases he with ⟨digits, rfl⟩ | ⟨descent, rfl⟩ <;>
    · obtain ⟨t, r, ht, hbreaks, hr⟩ := hjudged
      exact ⟨w, t, r, by rw [hs, ht], hw, hbreaks, hr⟩
  · rintro ⟨w, t, r, rfl, hw, ht, hr⟩
    rw [(ht.opens.append r).skip_append hw]
    exact ht.refused r hr

/-- **A text is refused for its numbers exactly if it is JSON up to one that is too long.** -/
theorem read_eq_longNumeral_iff {digits : Nat} :
    read room s = .error (.longNumeral digits) ↔ IsBroken (.longNumeral digits) room s := by
  have hform : ∀ m, Refusal.longNumeral digits ≠ .malformed m := fun _ => nofun
  rw [read_eq_error_iff_value hform, ← value_eq_error_iff (.inl ⟨digits, rfl⟩)]
  constructor
  · rintro ⟨e, hvalue, he⟩
    cases e with
    | longNumeral digits' =>
      cases he
      exact hvalue
    | flawed flaw left =>
      rw [Failure.refusal] at he
      split at he <;> cases he
    | noValue left | tooDeep descent => cases he
  · exact fun hvalue => ⟨_, hvalue, rfl⟩

/-- A flaw is found in the text where too few levels are left for its report. -/
def IsSunk (room : Nat) (s : List Char) : Prop :=
  ∃ flaw left, (value (marksFor s) room (skip s)).outcome = .error (.flawed flaw left) ∧
    left < reportLevels

/-- A text with such a flaw is no JSON. -/
theorem IsSunk.not_isJson (h : IsSunk room s) (fits : Nat → Prop) (spelled : Nat) (v : Value) :
    ¬IsJson fits spelled v s := by
  intro hjson
  obtain ⟨flaw, left, hvalue, -⟩ := h
  obtain ⟨r, -, hreached | ⟨e, hreached, he⟩⟩ := hjson.reached room
  · rw [hvalue] at hreached
    cases hreached
  · rw [hvalue] at hreached
    cases hreached
    cases he

/-- **A text is refused for its depth exactly if it is JSON up to something for which no level is left,
or a flaw is found too deep for its report.** -/
theorem read_eq_tooDeep_iff {descent : Descent} :
    read room s = .error (.tooDeep descent) ↔
      IsBroken (.tooDeep descent) room s ∨ descent = .calling ∧ IsSunk room s := by
  have hform : ∀ m, Refusal.tooDeep descent ≠ .malformed m := fun _ => nofun
  rw [read_eq_error_iff_value hform, ← value_eq_error_iff (.inr ⟨descent, rfl⟩)]
  constructor
  · rintro ⟨e, hvalue, he⟩
    cases e with
    | tooDeep descent' =>
      cases he
      exact .inl hvalue
    | flawed flaw left =>
      rw [Failure.refusal] at he
      split at he
      · rename_i hleft
        cases he
        exact .inr ⟨rfl, flaw, left, hvalue, hleft⟩
      · cases he
    | noValue left | longNumeral digits => cases he
  · rintro (hvalue | ⟨rfl, flaw, left, hvalue, hleft⟩)
    · exact ⟨_, hvalue, rfl⟩
    · exact ⟨_, hvalue, if_pos hleft⟩

theorem countP_skip_le (p : Char → Bool) (s : List Char) : (skip s).countP p ≤ s.countP p :=
  (List.dropWhile_suffix _).sublist.countP_le

/-- A text that is too deep has nearly as many brackets and braces as there are levels. -/
theorem room_lt_of_tooDeep {descent : Descent} (h : read room s = .error (.tooDeep descent)) :
    room < s.countP isBracket + reportLevels := by
  rcases read_eq_tooDeep_iff.1 h with ⟨w, t, r, rfl, -, ht, -⟩ | ⟨-, flaw, left, hvalue, hleft⟩
  · have := ht.room_le
    simp only [List.countP_append, reportLevels]
    omega
  · have hjudged := judged_value (marksFor s) room (skip s)
    rw [hvalue] at hjudged
    have hcount := countP_skip_le isBracket s
    simp only [Judged, reportLevels] at hjudged hleft ⊢
    omega

end Json

end Phrasebook
