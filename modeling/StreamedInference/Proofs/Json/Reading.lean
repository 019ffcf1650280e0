import StreamedInference.Proofs.Json.Acceptance

/-!
# Reading is what the grammar says

A text has a value if and only if the grammar spells this value by the text. That every spelling is
read is shown along the grammar: behind a spelling the reader is where the value has gone into the
innermost container. That nothing else is read is shown along the length of the text, since what is
inside a container is shorter than the container.

## Main results

* `Json.Reader.taken_of_spells`: what is spelt is read.
* `Json.Reader.readable`: what is read is spelt.
* `Json.ofChars?_eq_some_iff`: the value of a text.
* `Json.ofChars?_append_eq_some_iff`: the value of a text that goes on behind its value.
-/

namespace StreamedInference.Json

namespace Reader

variable {fs : List Frame} {us : List Json} {ms : List (Option String × Json)}
variable {c : Char} {cs a rest : List Char} {v w : Json}

/-! ### The places between words, numbers and strings -/

theorem accepts_value_iff :
    Accepts ⟨fs, .value⟩ cs w ↔ ∃ a c ds s, cs = a ++ c :: ds ∧ AreSpaces a ∧
      isSpace c = false ∧ beginValue fs c = some s ∧ s.Accepts ds w := by
  rw [accepts_iff_of_isBetween (fun _ => rfl) rfl]
  refine exists₄_congr fun a c ds s => ?_
  refine and_congr_right' (and_congr_right' (and_congr_right fun hc => ?_))
  simp [between, hc]

/-- Behind the bracket that opens an array it may end. -/
theorem accepts_arrayStart_iff :
    Accepts ⟨.array us :: fs, .arrayStart⟩ cs w ↔
      (∃ a rest, AreSpaces a ∧ cs = a ++ ']' :: rest ∧
        (deliver fs (.array us.reverse)).Accepts rest w) ∨
      Accepts ⟨.array us :: fs, .value⟩ cs w := by
  rw [accepts_iff_of_isBetween (fun _ => rfl) rfl, accepts_value_iff]
  constructor
  · rintro ⟨a, c, ds, s, rfl, ha, hc, hs, h⟩
    by_cases hend : c = ']'
    · subst hend
      obtain rfl := Option.some.inj hs
      exact .inl ⟨a, ds, ha, rfl, h⟩
    · exact .inr ⟨a, c, ds, s, rfl, ha, hc, by simpa [between, hc, hend] using hs, h⟩
  · rintro (⟨a, rest, ha, rfl, h⟩ | ⟨a, c, ds, s, rfl, ha, hc, hs, h⟩)
    · exact ⟨a, ']', rest, _, rfl, ha, rfl, rfl, h⟩
    · have hend : c ≠ ']' := by rintro rfl; cases hs
      exact ⟨a, c, ds, s, rfl, ha, hc, by simpa [between, hc, hend] using hs, h⟩

/-- Behind an item of a container a comma or the character that closes the container is due. -/
theorem accepts_separator_iff {f : Frame} {close : Char} {closed next : Reader}
    (hspace : isSpace close = false) (hcomma : close ≠ ',')
    (hclose : ∀ c, closeContainer (f :: fs) c = if c == close then some closed else none)
    (hnext : separate (f :: fs) ',' = some next) :
    Accepts ⟨f :: fs, .separator⟩ cs w ↔ ∃ a rest, AreSpaces a ∧
      (cs = a ++ close :: rest ∧ closed.Accepts rest w ∨
        cs = a ++ ',' :: rest ∧ next.Accepts rest w) := by
  refine accepts_iff_of_two (fun _ => rfl) rfl ?_ hnext fun c s hc hs => ?_
  · simp [between, separate, hspace, hcomma, hclose]
  · simp only [between, hc, Bool.false_eq_true, if_false] at hs
    by_cases hcc : c = ','
    · subst hcc
      exact .inr ⟨rfl, Option.some.inj (hs.symm.trans hnext)⟩
    · simp only [separate, hcc, beq_iff_eq, if_false, hclose] at hs
      split_ifs at hs with heq
      exact .inl ⟨heq, (Option.some.inj hs).symm⟩

theorem accepts_array_separator_iff :
    Accepts ⟨.array us :: fs, .separator⟩ cs w ↔ ∃ a rest, AreSpaces a ∧
      (cs = a ++ ']' :: rest ∧ (deliver fs (.array us.reverse)).Accepts rest w ∨
        cs = a ++ ',' :: rest ∧ Accepts ⟨.array us :: fs, .value⟩ rest w) :=
  accepts_separator_iff rfl (by decide) (fun _ => rfl) rfl

theorem accepts_object_separator_iff :
    Accepts ⟨.object ms :: fs, .separator⟩ cs w ↔ ∃ a rest, AreSpaces a ∧
      (cs = a ++ '}' :: rest ∧ (deliver fs (.object ms.reverse)).Accepts rest w ∨
        cs = a ++ ',' :: rest ∧ Accepts ⟨.object ms :: fs, .name⟩ rest w) :=
  accepts_separator_iff rfl (by decide) (fun _ => rfl) rfl

theorem accepts_name_iff :
    Accepts ⟨fs, .name⟩ cs w ↔ ∃ a rest, AreSpaces a ∧ cs = a ++ '"' :: rest ∧
      Accepts ⟨fs, .string true {} .plain⟩ rest w := by
  rw [accepts_iff_of_two (d := '"') (e := '"') (fun _ => rfl) rfl rfl rfl fun c s hc hs => ?_]
  · simp only [or_self]
  · simp only [between, hc, beginName, Bool.false_eq_true, if_false] at hs
    split_ifs at hs
    simp_all

theorem accepts_colon_iff :
    Accepts ⟨fs, .colon⟩ cs w ↔ ∃ a rest, AreSpaces a ∧ cs = a ++ ':' :: rest ∧
      Accepts ⟨fs, .value⟩ rest w := by
  rw [accepts_iff_of_two (d := ':') (e := ':') (fun _ => rfl) rfl rfl rfl fun c s hc hs => ?_]
  · simp only [or_self]
  · simp only [between, hc, Bool.false_eq_true, if_false] at hs
    split_ifs at hs
    simp_all

/-- Behind the brace that opens an object it may end. -/
theorem accepts_objectStart_iff :
    Accepts ⟨.object ms :: fs, .objectStart⟩ cs w ↔
      (∃ a rest, AreSpaces a ∧ cs = a ++ '}' :: rest ∧
        (deliver fs (.object ms.reverse)).Accepts rest w) ∨
      Accepts ⟨.object ms :: fs, .name⟩ cs w := by
  rw [accepts_name_iff,
    accepts_iff_of_two (d := '}') (e := '"') (fun _ => rfl) rfl rfl rfl fun c s hc hs => ?_]
  · simp only [and_or_left, exists_or]
  · simp only [between, hc, beginName, closeContainer, Bool.false_eq_true, if_false] at hs
    split_ifs at hs <;> simp_all

/-- Before a member its name and a colon are due, and then its value. -/
theorem accepts_member_iff :
    Accepts ⟨.object ms :: fs, .name⟩ cs w ↔
      ∃ a ns b ds name, cs = a ++ ns ++ b ++ ':' :: ds ∧ AreSpaces a ∧ SpellsString ns name ∧
        AreSpaces b ∧ Accepts ⟨.member ms name :: fs, .value⟩ ds w := by
  simp only [accepts_name_iff, accepts_string_iff]
  constructor
  · rintro ⟨a, -, ha, rfl, raw, name, rest, r, rfl, hname, hr, h⟩
    obtain rfl := Option.some.inj hr
    obtain ⟨b, ds, hb, rfl, hds⟩ := accepts_colon_iff.1 h
    exact ⟨a, '"' :: raw, b, ds, name, by simp, ha, hname, hb, hds⟩
  · rintro ⟨a, -, b, ds, name, rfl, ha, @⟨ns, ls, hls⟩, hb, h⟩
    exact ⟨a, ns ++ ['"'] ++ b ++ ':' :: ds, ha, by simp, ns ++ ['"'], _, b ++ ':' :: ds, _,
      by simp, .mk hls, rfl, accepts_colon_iff.2 ⟨b, ds, hb, rfl, h⟩⟩

/-! ### What is spelt is read -/

theorem beginValue_of_first? {p : NumberPart} (h : NumberPart.first? c = some p) :
    beginValue fs c = some ⟨fs, .number p [c]⟩ := by
  unfold beginValue
  split
  iterate 6 cases h
  simp [h]

theorem isSpace_of_first? {p : NumberPart} (h : NumberPart.first? c = some p) :
    isSpace c = false := by
  by_contra hc
  simp only [isSpace, Bool.not_eq_false, Bool.or_eq_true, beq_iff_eq] at hc
  rcases hc with ((rfl | rfl) | rfl) | rfl <;> cases h

/-- How a text that spells a phrase is read, where it is due and whatever follows. -/
def Taken (cs : List Char) : Phrase → Prop
  | .value v | .element v => ∀ fs rest w, (deliver fs v).Accepts rest w →
      Accepts ⟨fs, .value⟩ (cs ++ rest) w
  | .elements vs => ∀ us fs rest w, (deliver fs (.array (us.reverse ++ vs))).Accepts rest w →
      Accepts ⟨.array us :: fs, .value⟩ (cs ++ ']' :: rest) w
  | .member name v => ∀ ms fs rest w,
      Accepts ⟨.object ((name, v) :: ms) :: fs, .separator⟩ rest w →
      Accepts ⟨.object ms :: fs, .name⟩ (cs ++ rest) w
  | .members ns => ∀ ms fs rest w, (deliver fs (.object (ms.reverse ++ ns))).Accepts rest w →
      Accepts ⟨.object ms :: fs, .name⟩ (cs ++ '}' :: rest) w

theorem taken_word {d : Char} {ds : List Char} (hc : isSpace c = false)
    (hbegin : ∀ fs, beginValue fs c = some ⟨fs, .word (d :: ds) v⟩) :
    Taken (c :: d :: ds) (.value v) := by
  intro fs rest w h
  refine accepts_value_iff.2 ⟨[], c, d :: ds ++ rest, _, rfl, areSpaces_nil, hc, hbegin fs, ?_⟩
  exact accepts_word_iff.2 ⟨rest, rfl, h⟩

theorem taken_number (hcs : IsNumeral cs) : Taken cs (.value (.number (String.ofList cs))) := by
  intro fs rest w h
  obtain ⟨c, ds, p, rfl, hp, hds⟩ := isNumeral_iff.1 hcs
  refine accepts_value_iff.2
    ⟨[], c, ds ++ rest, _, rfl, areSpaces_nil, isSpace_of_first? hp, beginValue_of_first? hp, ?_⟩
  exact accepts_number_iff.2 ⟨ds, rest, rfl, hds, by simpa [numberValue] using h⟩

theorem taken_string {s : Option String} (hcs : SpellsString cs s) :
    Taken cs (.value (.string s)) := by
  intro fs rest w h
  obtain @⟨ds, ls, hls⟩ := hcs
  refine accepts_value_iff.2 ⟨[], '"', ds ++ ['"'] ++ rest, _, rfl, areSpaces_nil, rfl, rfl, ?_⟩
  exact accepts_string_iff.2 ⟨ds ++ ['"'], _, rest, _, rfl, .mk hls, rfl, h⟩

/-- What is spelt is read. -/
theorem taken_of_spells {p : Phrase} (h : Spells cs p) : Taken cs p := by
  -- Along the grammar; the frames of the containers that are open stay general throughout.
  induction h with
  | nullWord => exact taken_word rfl fun _ => rfl
  | trueWord => exact taken_word rfl fun _ => rfl
  | falseWord => exact taken_word rfl fun _ => rfl
  | number h => exact taken_number h
  | string h => exact taken_string h
  | @emptyArray a ha =>
    intro fs rest w h
    refine accepts_value_iff.2 ⟨[], '[', a ++ [']'] ++ rest, _, rfl, areSpaces_nil, rfl, rfl, ?_⟩
    exact accepts_arrayStart_iff.2 (.inl ⟨a, rest, ha, by simp, h⟩)
  | @array cs vs _ ih =>
    intro fs rest w h
    refine accepts_value_iff.2 ⟨[], '[', cs ++ [']'] ++ rest, _, rfl, areSpaces_nil, rfl, rfl, ?_⟩
    rw [List.append_assoc]
    exact accepts_arrayStart_iff.2 (.inr (ih [] fs rest w h))
  | @emptyObject a ha =>
    intro fs rest w h
    refine accepts_value_iff.2 ⟨[], '{', a ++ ['}'] ++ rest, _, rfl, areSpaces_nil, rfl, rfl, ?_⟩
    exact accepts_objectStart_iff.2 (.inl ⟨a, rest, ha, by simp, h⟩)
  | @object cs ns _ ih =>
    intro fs rest w h
    refine accepts_value_iff.2 ⟨[], '{', cs ++ ['}'] ++ rest, _, rfl, areSpaces_nil, rfl, rfl, ?_⟩
    rw [List.append_assoc]
    exact accepts_objectStart_iff.2 (.inr (ih [] fs rest w h))
  | element ha _ hb ih =>
    intro fs rest w h
    rw [List.append_assoc, List.append_assoc, accepts_spaces (fun _ => rfl) ha]
    exact ih fs _ w ((accepts_spaces isBetween_deliver hb).2 h)
  | lastElement _ ih =>
    intro us fs rest w h
    refine ih (.array us :: fs) _ w ?_
    exact accepts_array_separator_iff.2
      ⟨[], rest, areSpaces_nil, .inl ⟨rfl, by simpa using h⟩⟩
  | @moreElements cs ds v vs _ _ ih ihs =>
    intro us fs rest w h
    rw [List.append_assoc]
    refine ih (.array us :: fs) _ w ?_
    exact accepts_array_separator_iff.2
      ⟨[], ds ++ ']' :: rest, areSpaces_nil, .inr ⟨rfl, ihs (v :: us) fs rest w (by simpa using h)⟩⟩
  | @member a ns b cs name v ha hname hb _ ih =>
    intro ms fs rest w h
    exact accepts_member_iff.2 ⟨a, ns, b, cs ++ rest, name, by simp, ha, hname, hb,
      ih (.member ms name :: fs) rest w h⟩
  | lastMember _ ih =>
    intro ms fs rest w h
    refine ih ms fs _ w ?_
    exact accepts_object_separator_iff.2
      ⟨[], rest, areSpaces_nil, .inl ⟨rfl, by simpa using h⟩⟩
  | @moreMembers cs ds name v ns _ _ ih ihs =>
    intro ms fs rest w h
    rw [List.append_assoc]
    refine ih ms fs _ w ?_
    exact accepts_object_separator_iff.2 ⟨[], ds ++ '}' :: rest, areSpaces_nil,
      .inr ⟨rfl, ihs ((name, v) :: ms) fs rest w (by simpa using h)⟩⟩

/-! ### What is read is spelt -/

/-- Where a value is due, white space and a spelling of a value are read first. -/
def Readable (cs : List Char) : Prop :=
  ∀ fs w, Accepts ⟨fs, .value⟩ cs w → ∃ a t rest v, cs = a ++ t ++ rest ∧ AreSpaces a ∧
    Spells t (.value v) ∧ (deliver fs v).Accepts rest w

/-- Values in the inside of an array. -/
theorem exists_elements_of_accepts {n : ℕ} (hn : ∀ ds : List Char, ds.length ≤ n → Readable ds)
    (hcs : cs.length ≤ n) (h : Accepts ⟨.array us :: fs, .value⟩ cs w) :
    ∃ t vs rest, cs = t ++ ']' :: rest ∧ Spells t (.elements vs) ∧
      (deliver fs (.array (us.reverse ++ vs))).Accepts rest w := by
  induction hlength : cs.length using Nat.strong_induction_on generalizing cs us with
  | _ m ih =>
    obtain ⟨a, t, ds, v, rfl, ha, ht, hds⟩ := hn cs hcs _ _ h
    obtain ⟨b, es, hb, ⟨rfl, hes⟩ | ⟨rfl, hes⟩⟩ := accepts_array_separator_iff.1 hds
    · exact ⟨a ++ t ++ b, [v], es, by simp, .lastElement (.element ha ht hb), by simpa using hes⟩
    · simp only [List.length_append, List.length_cons] at hcs hlength
      obtain ⟨u, vs, rest, rfl, hu, hrest⟩ := ih es.length (by omega) (by omega) hes rfl
      exact ⟨a ++ t ++ b ++ ',' :: u, v :: vs, rest, by simp,
        .moreElements (.element ha ht hb) hu, by simpa using hrest⟩

/-- Members in the inside of an object. -/
theorem exists_members_of_accepts {n : ℕ} (hn : ∀ ds : List Char, ds.length ≤ n → Readable ds)
    (hcs : cs.length ≤ n) (h : Accepts ⟨.object ms :: fs, .name⟩ cs w) :
    ∃ t ns rest, cs = t ++ '}' :: rest ∧ Spells t (.members ns) ∧
      (deliver fs (.object (ms.reverse ++ ns))).Accepts rest w := by
  induction hlength : cs.length using Nat.strong_induction_on generalizing cs ms with
  | _ m ih =>
    obtain ⟨a, raw, b, ds, name, rfl, ha, hname, hb, hds⟩ := accepts_member_iff.1 h
    simp only [List.length_append, List.length_cons] at hcs hlength
    obtain ⟨d, t, es, v, rfl, hd, ht, hes⟩ := hn ds (by omega) _ _ hds
    obtain ⟨e, gs, he, ⟨rfl, hgs⟩ | ⟨rfl, hgs⟩⟩ := accepts_object_separator_iff.1 hes
    · exact ⟨a ++ raw ++ b ++ ':' :: (d ++ t ++ e), [(name, v)], gs, by simp,
        .lastMember (.member ha hname hb (.element hd ht he)), by simpa using hgs⟩
    · simp only [List.length_append, List.length_cons] at hcs hlength
      obtain ⟨u, ns, rest, rfl, hu, hrest⟩ := ih gs.length (by omega) (by omega) hgs rfl
      exact ⟨a ++ raw ++ b ++ ':' :: (d ++ t ++ e) ++ ',' :: u, (name, v) :: ns, rest, by simp,
        .moreMembers (.member ha hname hb (.element hd ht he)) hu, by simpa using hrest⟩

/-- What is read is spelt. -/
theorem readable (cs : List Char) : Readable cs := by
  induction hlength : cs.length using Nat.strong_induction_on generalizing cs with
  | _ n ih =>
    intro fs w h
    obtain ⟨a, c, ds, s, rfl, ha, -, hs, h⟩ := accepts_value_iff.1 h
    -- What is inside a container is shorter than the text by its opening bracket at least.
    have hshorter : ∀ es : List Char, es.length ≤ ds.length → Readable es := by
      intro es hes
      simp only [List.length_append, List.length_cons] at hlength
      exact ih es.length (by omega) es rfl
    unfold beginValue at hs
    split at hs
    · obtain rfl := Option.some.inj hs
      obtain ⟨b, rest, hb, rfl, hrest⟩ | h := accepts_arrayStart_iff.1 h
      · exact ⟨a, '[' :: (b ++ [']']), rest, .array [], by simp, ha, .emptyArray hb, hrest⟩
      · obtain ⟨t, vs, rest, rfl, ht, h⟩ := exists_elements_of_accepts hshorter le_rfl h
        exact ⟨a, '[' :: (t ++ [']']), rest, .array vs, by simp, ha, .array ht, h⟩
    · obtain rfl := Option.some.inj hs
      obtain ⟨b, rest, hb, rfl, hrest⟩ | h := accepts_objectStart_iff.1 h
      · exact ⟨a, '{' :: (b ++ ['}']), rest, .object [], by simp, ha, .emptyObject hb, hrest⟩
      · obtain ⟨t, ns, rest, rfl, ht, h⟩ := exists_members_of_accepts hshorter le_rfl h
        exact ⟨a, '{' :: (t ++ ['}']), rest, .object ns, by simp, ha, .object ht, h⟩
    · obtain rfl := Option.some.inj hs
      obtain ⟨raw, text, rest, r, rfl, hraw, hr, h⟩ := accepts_string_iff.1 h
      obtain rfl := Option.some.inj hr
      exact ⟨a, '"' :: raw, rest, .string text, by simp, ha, .string hraw, h⟩
    · obtain rfl := Option.some.inj hs
      obtain ⟨rest, rfl, h⟩ := accepts_word_iff.1 h
      exact ⟨a, _, rest, _, by simp, ha, .nullWord, h⟩
    · obtain rfl := Option.some.inj hs
      obtain ⟨rest, rfl, h⟩ := accepts_word_iff.1 h
      exact ⟨a, _, rest, _, by simp, ha, .trueWord, h⟩
    · obtain rfl := Option.some.inj hs
      obtain ⟨rest, rfl, h⟩ := accepts_word_iff.1 h
      exact ⟨a, _, rest, _, by simp, ha, .falseWord, h⟩
    · obtain ⟨p, hp, rfl⟩ := Option.map_eq_some_iff.1 hs
      obtain ⟨es, rest, rfl, hes, h⟩ := accepts_number_iff.1 h
      exact ⟨a, c :: es, rest, _, by simp, ha, .number (isNumeral_iff.2 ⟨c, es, p, rfl, hp, hes⟩),
        by simpa [numberValue] using h⟩

/-- Behind a whole text only white space is due. -/
theorem accepts_done_iff : Accepts ⟨fs, .done v⟩ cs w ↔ AreSpaces cs ∧ v = w := by
  constructor
  · intro h
    obtain ⟨a, ds, rfl, ha, hds⟩ := exists_areSpaces cs
    rw [accepts_spaces (fun _ => rfl) ha] at h
    cases ds with
    | nil => exact ⟨by simpa using ha, Option.some.inj h⟩
    | cons c ds => simp [accepts_cons, step, between, hds c rfl] at h
  · rintro ⟨hcs, rfl⟩
    rw [← List.append_nil cs, accepts_spaces (fun _ => rfl) hcs]
    rfl

end Reader

/-- A text has the value that it spells. -/
theorem ofChars?_eq_some_iff {cs : List Char} {v : Json} :
    ofChars? cs = some v ↔ Spells cs (.element v) := by
  constructor
  · intro h
    obtain ⟨a, t, rest, u, rfl, ha, ht, h⟩ := Reader.readable cs [] v h
    obtain ⟨hrest, rfl⟩ := Reader.accepts_done_iff.1 h
    exact .element ha ht hrest
  · intro h
    have h := Reader.taken_of_spells h [] [] v rfl
    rwa [List.append_nil] at h

/-- A value that is no number ends with its last character: white space may follow it, and nothing
else. -/
theorem ofChars?_append_eq_some_iff {cs ds : List Char} {v w : Json} (h : ofChars? cs = some v)
    (hv : ∀ lexeme, v ≠ .number lexeme) :
    ofChars? (cs ++ ds) = some w ↔ AreSpaces ds ∧ v = w := by
  obtain ⟨⟨fs, place⟩, hrun, hfinish⟩ := Option.bind_eq_some_iff.1 h
  have hplace : place = .done v := by
    unfold Reader.finish? at hfinish
    split at hfinish
    · next u heq => exact heq.trans (congrArg _ (Option.some.inj hfinish))
    · split_ifs at hfinish
      exact absurd (Option.some.inj hfinish).symm (hv _)
    · cases hfinish
  subst hplace
  rw [ofChars?, Reader.run_append, hrun, Option.bind_some]
  exact Reader.accepts_done_iff

end StreamedInference.Json
