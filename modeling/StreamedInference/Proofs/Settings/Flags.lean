import Mathlib.Data.List.Sigma
import Mathlib.Data.List.TakeWhile
import StreamedInference.Settings.CommandLine

/-!
# Settings from flags and variables

Flags on a command line and variables of an environment both come down to a list of settings with
texts, which are set one after the other. If every setting occurs once in the list, its order does
not matter for what is read of it, and only for which of several texts that cannot be read is told
about.

## Main definitions

* `Setting.Reads`, `Setting.value?`: whether a text can be read, and as what.
* `Flag`, `Flag.words`: a flag with its text, and how it stands on a command line.
* `CommandLine.assignAll`: settings that are set one after the other.
* `CommandLine.given?`, `CommandLine.used?`: the text of a setting's flag, and the text that a
  setting has from outside.

## Main results

* `CommandLine.readFrom_words`, `Environment.readFrom_eq`: both sources come down to lists.
* `CommandLine.assignAll_eq_ok`, `CommandLine.exists_assignAll_eq_error`: what such lists give.
* `readSettings_eq_ok`, `exists_readSettings_eq_error`: what both sources give together.
-/

namespace StreamedInference

/-! ### Texts of settings -/

namespace Setting

variable {s : Setting} {text : String}

/-- The text can be read as a value of the setting. -/
def Reads (s : Setting) (text : String) : Prop :=
  ∃ v, s.kind.read text = .ok v

/-- The value of a text. -/
def value? (s : Setting) (text : String) : Option s.Value :=
  match s.kind.read text with
  | .ok v => some v
  | .error _ => none

instance : Decidable (s.Reads text) :=
  match h : s.kind.read text with
  | .ok v => .isTrue ⟨v, h⟩
  | .error _ => .isFalse fun ⟨_, hv⟩ => by cases h.symm.trans hv

theorem isSome_value?_iff : (s.value? text).isSome ↔ s.Reads text := by
  unfold value? Reads
  cases s.kind.read text <;> simp

theorem mem_all (s : Setting) : s ∈ all := by
  cases s <;> decide

theorem nodup_all : all.Nodup := by
  decide

/-- A flag is found by its name. -/
theorem ofFlagName?_flagName (s : Setting) : ofFlagName? s.flagName = some s := by
  cases s <;> decide

/-- A flag's name has no equals sign in it. -/
theorem equals_notMem_flagName (s : Setting) : '=' ∉ s.flagName.toList := by
  rw [flagName, String.toList_ofList]
  cases s <;> decide

theorem flagName_ne_empty (s : Setting) : s.flagName.toList ≠ [] := by
  rw [flagName, String.toList_ofList]
  cases s <;> decide

end Setting

/-- The values of texts, where there are texts that can be read. -/
def Layer.ofTexts (text? : Setting → Option String) : Layer :=
  fun s => (text? s).bind s.value?

/-! ### Flags and the words that they are -/

/-- A flag with a text. -/
structure Flag where
  setting : Setting
  text : String
  /-- The text stands in the same word, behind an equals sign. -/
  attached : Bool
deriving DecidableEq

namespace Flag

/-- A flag as it stands on a command line. -/
def words (f : Flag) : List String :=
  if f.attached then ["--" ++ f.setting.flagName ++ "=" ++ f.text]
  else ["--" ++ f.setting.flagName, f.text]

/-- The setting and the text, without how they stand there. -/
def content (f : Flag) : Σ _ : Setting, String :=
  ⟨f.setting, f.text⟩

/-- A text in a word of its own does not begin with a dash. -/
def IsPlain (f : Flag) : Prop :=
  f.attached = false → f.text.toList.head? ≠ some '-'

/-- Flags of different settings, each spelt as a flag with a text. -/
def AreProper (fs : List Flag) : Prop :=
  (fs.map Flag.setting).Nodup ∧ ∀ f ∈ fs, f.IsPlain

instance : DecidablePred IsPlain :=
  fun f => inferInstanceAs (Decidable (f.attached = false → _))

instance : DecidablePred AreProper :=
  fun fs => inferInstanceAs (Decidable ((fs.map Flag.setting).Nodup ∧ ∀ f ∈ fs, f.IsPlain))

theorem keys_content (fs : List Flag) : (fs.map content).keys = fs.map Flag.setting :=
  List.map_map

theorem AreProper.nodupKeys {fs : List Flag} (h : AreProper fs) : (fs.map content).NodupKeys := by
  rw [List.NodupKeys, keys_content]
  exact h.1

/-- Flags with the same contents are of different settings as well. -/
theorem AreProper.of_perm {fs gs : List Flag} (h : AreProper fs)
    (hperm : (gs.map content).Perm (fs.map content)) (hgs : ∀ g ∈ gs, g.IsPlain) :
    AreProper gs := by
  have hkeys : (gs.map Flag.setting).Perm (fs.map Flag.setting) := by
    rw [← keys_content, ← keys_content]
    exact hperm.map Sigma.fst
  exact ⟨hkeys.nodup_iff.2 h.1, hgs⟩

end Flag

namespace Word

variable {cs ds : List Char} {text : String}

/-- A name is cut off at the first equals sign. -/
theorem splitAssignment_append (h : '=' ∉ cs) :
    splitAssignment (cs ++ '=' :: ds) = (String.ofList cs, some (String.ofList ds)) := by
  have hcs : ∀ c ∈ cs, (c != '=') = true := fun c hc => bne_iff_ne.2 fun heq => h (heq ▸ hc)
  simp [splitAssignment, List.takeWhile_append_of_pos hcs, List.dropWhile_append_of_pos hcs]

theorem splitAssignment_of_notMem (h : '=' ∉ cs) :
    splitAssignment cs = (String.ofList cs, none) := by
  have hcs : ∀ c ∈ cs, (c != '=') = true := fun c hc => bne_iff_ne.2 fun heq => h (heq ▸ hc)
  simp [splitAssignment, List.takeWhile_eq_self_iff.2 hcs, List.dropWhile_eq_nil_iff.2 hcs]

theorem ofText_of_dashes (htext : text.toList = '-' :: '-' :: cs) (hcs : cs ≠ []) :
    ofText text = .long (splitAssignment cs).1 (splitAssignment cs).2 := by
  cases cs with
  | nil => exact absurd rfl hcs
  | cons c cs => simp [ofText, htext]

/-- The word of a flag alone. -/
theorem ofText_flag (s : Setting) : ofText ("--" ++ s.flagName) = .long s.flagName none := by
  have htext : ("--" ++ s.flagName).toList = '-' :: '-' :: s.flagName.toList := by simp
  rw [ofText_of_dashes htext s.flagName_ne_empty,
    splitAssignment_of_notMem s.equals_notMem_flagName, String.ofList_toList]

/-- The word of a flag with a text. -/
theorem ofText_flag_equals (s : Setting) (text : String) :
    ofText ("--" ++ s.flagName ++ "=" ++ text) = .long s.flagName (some text) := by
  have htext : ("--" ++ s.flagName ++ "=" ++ text).toList =
      '-' :: '-' :: (s.flagName.toList ++ '=' :: text.toList) := by simp
  rw [ofText_of_dashes htext (by simp), splitAssignment_append s.equals_notMem_flagName,
    String.ofList_toList, String.ofList_toList]

/-- A word without a dash in front is a text. -/
theorem ofText_plain (h : text.toList.head? ≠ some '-') : ofText text = .plain text := by
  unfold ofText
  split <;> simp_all

end Word

namespace CommandLine

variable {l : Layer} {s : Setting} {text : String} {es : List (Σ _ : Setting, String)}

/-- Sets settings from texts, one after the other. -/
def assignAll (l : Layer) : List (Σ _ : Setting, String) → Except UsageError Layer
  | [] => .ok l
  | e :: es =>
    match assign l e.1 e.2 with
    | .error error => .error error
    | .ok l => assignAll l es

/-- A flag at the front is set, whichever way it is spelt. -/
theorem readFrom_words_append (f : Flag) (hf : f.IsPlain) (ws : List String) :
    readFrom l (f.words ++ ws) =
      match assign l f.setting f.text with
      | .error error => .error error
      | .ok l => readFrom l ws := by
  obtain ⟨s, text, attached⟩ := f
  cases attached with
  | true =>
    simp only [Flag.words, if_true, List.singleton_append]
    rw [readFrom, Word.ofText_flag_equals]
    cases h : assign l s text <;> simp only [Setting.ofFlagName?_flagName, h]
  | false =>
    simp only [Flag.words, Bool.false_eq_true, if_false, List.cons_append, List.nil_append]
    rw [readFrom, Word.ofText_flag]
    cases h : assign l s text <;>
      simp only [Setting.ofFlagName?_flagName, Word.ofText_plain (hf rfl), h]

/-- Flags on a command line are set one after the other. -/
theorem readFrom_words {fs : List Flag} (hfs : ∀ f ∈ fs, f.IsPlain) :
    readFrom l (fs.flatMap Flag.words) = assignAll l (fs.map Flag.content) := by
  induction fs generalizing l with
  | nil => rfl
  | cons f fs ih =>
    rw [List.forall_mem_cons] at hfs
    rw [List.flatMap_cons, readFrom_words_append f hfs.1, List.map_cons, assignAll]
    simp only [ih hfs.2]
    rfl

/-! ### Settings one after the other -/

theorem assign_of_reads (hl : l s = none) {v : s.Value} (h : s.kind.read text = .ok v) :
    assign l s text = .ok (l.set s v) := by
  simp [assign, hl, h]

theorem assign_of_not_reads (hl : l s = none) {fault : ValueFault}
    (h : s.kind.read text = .error fault) : assign l s text = .error (.badValue s text fault) := by
  simp [assign, hl, h]

/-- The settings behind the first one are still open when it is set. -/
theorem set_eq_none (hl : ∀ e ∈ ⟨s, text⟩ :: es, l e.1 = none)
    (hd : (⟨s, text⟩ :: es : List (Σ _ : Setting, String)).NodupKeys) (v : s.Value) :
    ∀ e ∈ es, l.set s v e.1 = none := by
  intro e he
  have hne : s ≠ e.1 := by
    rintro rfl
    exact (List.nodupKeys_cons.1 hd).1 (List.mem_keys.2 ⟨e.2, he⟩)
  rw [Layer.set_other l v hne]
  exact hl e (List.mem_cons_of_mem _ he)

/-- Different settings with texts that can be read are all set, in whichever order. -/
theorem assignAll_eq_ok (hd : es.NodupKeys) (hl : ∀ e ∈ es, l e.1 = none)
    (hr : ∀ e ∈ es, e.1.Reads e.2) :
    assignAll l es = .ok ((Layer.ofTexts fun s => es.dlookup s).upon l) := by
  induction es generalizing l with
  | nil => rfl
  | cons e es ih =>
    obtain ⟨s, text⟩ := e
    rw [List.forall_mem_cons] at hr
    obtain ⟨⟨v, hv⟩, hr⟩ := hr
    have hunset : l s = none := hl ⟨s, text⟩ List.mem_cons_self
    simp only [assignAll, assign_of_reads hunset hv]
    rw [ih (List.nodupKeys_cons.1 hd).2 (set_eq_none hl hd v) hr]
    congr 1
    funext t
    by_cases ht : s = t
    · subst ht
      have hnone : es.dlookup s = none := List.dlookup_eq_none.2 (List.nodupKeys_cons.1 hd).1
      simp [Layer.upon, Layer.ofTexts, hnone, Layer.set_same, Setting.value?, hv]
    · have hskip : (⟨s, text⟩ :: es).dlookup t = es.dlookup t :=
        List.dlookup_cons_ne es ⟨s, text⟩ (Ne.symm ht)
      simp [Layer.upon, Layer.ofTexts, Layer.set_other l v ht, hskip]

/-- Different settings are not set if one of the texts cannot be read, and one of these is told
about. -/
theorem exists_assignAll_eq_error (hd : es.NodupKeys) (hl : ∀ e ∈ es, l e.1 = none)
    (hr : ∃ e ∈ es, ¬e.1.Reads e.2) :
    ∃ e ∈ es, ∃ fault, e.1.kind.read e.2 = .error fault ∧
      assignAll l es = .error (.badValue e.1 e.2 fault) := by
  induction es generalizing l with
  | nil => simp at hr
  | cons e es ih =>
    obtain ⟨s, text⟩ := e
    have hunset : l s = none := hl ⟨s, text⟩ List.mem_cons_self
    cases hread : s.kind.read text with
    | error fault =>
      refine ⟨⟨s, text⟩, List.mem_cons_self, fault, hread, ?_⟩
      simp only [assignAll, assign_of_not_reads hunset hread]
    | ok v =>
      have hbad : ∃ e ∈ es, ¬e.1.Reads e.2 := by
        obtain ⟨e, he, hbad⟩ := hr
        rcases List.mem_cons.1 he with rfl | he
        · exact absurd ⟨v, hread⟩ hbad
        · exact ⟨e, he, hbad⟩
      obtain ⟨e, he, fault, hfault, hall⟩ :=
        ih (List.nodupKeys_cons.1 hd).2 (set_eq_none hl hd v) hbad
      refine ⟨e, List.mem_cons_of_mem _ he, fault, hfault, ?_⟩
      simp only [assignAll, assign_of_reads hunset hread, hall]

end CommandLine

/-! ### Variables -/

namespace Environment

variable {env : Environment} {given : Layer} {s : Setting} {text : String} {ss : List Setting}

/-- The variables of settings that are still open, with their texts. -/
def openTexts (env : Environment) (given : Layer) (ss : List Setting) :
    List (Σ _ : Setting, String) :=
  ss.filterMap fun s =>
    (if (given s).isSome then none else env.get? s.variableName).map fun text => ⟨s, text⟩

/-- Variables are set one after the other. -/
theorem readFrom_eq {l : Layer} :
    readFrom env given l ss = CommandLine.assignAll l (env.openTexts given ss) := by
  induction ss generalizing l with
  | nil => rfl
  | cons s ss ih =>
    rw [readFrom, openTexts, List.filterMap_cons]
    cases if (given s).isSome then none else env.get? s.variableName with
    | none => exact ih
    | some text =>
      simp only [Option.map_some, CommandLine.assignAll, ih]
      rfl

theorem mem_openTexts_iff :
    ⟨s, text⟩ ∈ env.openTexts given Setting.all ↔
      given s = none ∧ env.get? s.variableName = some text := by
  simp [openTexts, Setting.mem_all]

theorem nodupKeys_openTexts : (env.openTexts given Setting.all).NodupKeys := by
  refine List.nodupKeys_iff_pairwise.2 (List.Pairwise.filterMap _ ?_ Setting.nodup_all)
  intro s s' hne e he e' he'
  obtain ⟨-, -, rfl⟩ := Option.map_eq_some_iff.1 he
  obtain ⟨-, -, rfl⟩ := Option.map_eq_some_iff.1 he'
  exact hne

/-- Variables that can be read are all read. -/
theorem read_eq_ok
    (hr : ∀ s text, given s = none → env.get? s.variableName = some text → s.Reads text) :
    env.read given = .ok
      (Layer.ofTexts fun s => if given s = none then env.get? s.variableName else none) := by
  have hlookup : (fun s => (env.openTexts given Setting.all).dlookup s) =
      fun s => if given s = none then env.get? s.variableName else none := by
    funext s
    refine Option.ext fun text => ?_
    rw [← Option.mem_def, List.mem_dlookup_iff nodupKeys_openTexts, mem_openTexts_iff]
    split_ifs with h <;> simp [h]
  rw [read, readFrom_eq, CommandLine.assignAll_eq_ok nodupKeys_openTexts (fun _ _ => rfl), hlookup]
  · exact congrArg Except.ok (funext fun s => Option.or_none)
  · rintro ⟨s, text⟩ he
    obtain ⟨hopen, hget⟩ := mem_openTexts_iff.1 he
    exact hr s text hopen hget

/-- Variables of settings that are given do not matter. -/
theorem read_congr {env' : Environment}
    (h : ∀ s, given s = none → env.get? s.variableName = env'.get? s.variableName) :
    env.read given = env'.read given := by
  have htexts : env.openTexts given Setting.all = env'.openTexts given Setting.all := by
    refine List.filterMap_congr fun s _ => ?_
    cases hgiven : given s with
    | none => simp [h s hgiven]
    | some v => rfl
  rw [read, read, readFrom_eq, readFrom_eq, htexts]

/-- A variable that cannot be read is told about. -/
theorem exists_read_eq_error (hr : ∃ s text, given s = none ∧
      env.get? s.variableName = some text ∧ ¬s.Reads text) :
    ∃ s text fault, given s = none ∧ env.get? s.variableName = some text ∧
      s.kind.read text = .error fault ∧ env.read given = .error (.badValue s text fault) := by
  obtain ⟨s, text, hopen, hget, hbad⟩ := hr
  obtain ⟨e, he, fault, hfault, hall⟩ := CommandLine.exists_assignAll_eq_error
    (l := .empty) nodupKeys_openTexts (fun _ _ => rfl) ⟨_, mem_openTexts_iff.2 ⟨hopen, hget⟩, hbad⟩
  obtain ⟨hopen, hget⟩ := mem_openTexts_iff.1 he
  exact ⟨e.1, e.2, fault, hopen, hget, hfault, by rw [read, readFrom_eq, hall]⟩

end Environment

/-! ### Both sources -/

namespace CommandLine

variable {fs gs : List Flag} {env : Environment} {s : Setting} {text : String}

/-- The text of a setting's flag. -/
def given? (fs : List Flag) (s : Setting) : Option String :=
  (fs.map Flag.content).dlookup s

/-- The text that a setting has from outside: that of its flag if the flag is given, or else that of
its variable. -/
def used? (fs : List Flag) (env : Environment) (s : Setting) : Option String :=
  (given? fs s).or (env.get? s.variableName)

theorem given?_eq_some_iff (hfs : Flag.AreProper fs) :
    given? fs s = some text ↔ ⟨s, text⟩ ∈ fs.map Flag.content :=
  List.mem_dlookup_iff hfs.nodupKeys

/-- Flags with texts that can be read are all read. -/
theorem read_eq_ok (hfs : Flag.AreProper fs)
    (hr : ∀ s text, given? fs s = some text → s.Reads text) :
    read (fs.flatMap Flag.words) = .ok (Layer.ofTexts (given? fs)) := by
  rw [read, readFrom_words hfs.2, assignAll_eq_ok hfs.nodupKeys (fun _ _ => rfl)]
  · exact congrArg Except.ok (funext fun s => Option.or_none)
  · rintro ⟨s, text⟩ he
    exact hr s text ((given?_eq_some_iff hfs).2 he)

/-- A flag with a text that cannot be read is told about. -/
theorem exists_read_eq_error (hfs : Flag.AreProper fs)
    (hr : ∃ s text, given? fs s = some text ∧ ¬s.Reads text) :
    ∃ s text fault, given? fs s = some text ∧ s.kind.read text = .error fault ∧
      read (fs.flatMap Flag.words) = .error (.badValue s text fault) := by
  obtain ⟨s, text, hgiven, hbad⟩ := hr
  obtain ⟨e, he, fault, hfault, hall⟩ := exists_assignAll_eq_error (l := .empty) hfs.nodupKeys
    (fun _ _ => rfl) ⟨_, (given?_eq_some_iff hfs).1 hgiven, hbad⟩
  exact ⟨e.1, e.2, fault, (given?_eq_some_iff hfs).2 he, hfault,
    by rw [read, readFrom_words hfs.2, hall]⟩

/-- Neither the order of flags nor their spelling matters. -/
theorem read_eq_of_perm (hfs : Flag.AreProper fs) (hgs : ∀ g ∈ gs, g.IsPlain)
    (hperm : (gs.map Flag.content).Perm (fs.map Flag.content))
    (hr : ∀ s text, given? fs s = some text → s.Reads text) :
    read (gs.flatMap Flag.words) = read (fs.flatMap Flag.words) := by
  have hgiven : given? fs = given? gs :=
    funext fun s => List.perm_dlookup s hfs.nodupKeys hperm.symm
  rw [read_eq_ok hfs hr, read_eq_ok (hfs.of_perm hperm hgs) (hgiven ▸ hr), hgiven]

end CommandLine

open CommandLine

variable {fs : List Flag} {env env' : Environment}

theorem Layer.ofTexts_eq_none_iff {text? : Setting → Option String} {s : Setting}
    (hr : ∀ text, text? s = some text → s.Reads text) :
    Layer.ofTexts text? s = none ↔ text? s = none := by
  cases htext : text? s with
  | none => simp [Layer.ofTexts, htext]
  | some text => simpa [Layer.ofTexts, htext, Option.isSome_iff_ne_none] using
      Setting.isSome_value?_iff.2 (hr text htext)

/-- Variables of settings whose flags are given do not matter. -/
theorem readSettings_congr (hfs : Flag.AreProper fs)
    (h : ∀ s, given? fs s = none → env.get? s.variableName = env'.get? s.variableName) :
    readSettings (fs.flatMap Flag.words) env = readSettings (fs.flatMap Flag.words) env' := by
  by_cases hflags : ∃ s text, given? fs s = some text ∧ ¬s.Reads text
  · obtain ⟨s, text, fault, -, -, hread⟩ := CommandLine.exists_read_eq_error hfs hflags
    simp only [readSettings, hread]
  · push Not at hflags
    have hvariables : ∀ s, Layer.ofTexts (given? fs) s = none →
        env.get? s.variableName = env'.get? s.variableName :=
      fun s hs => h s ((Layer.ofTexts_eq_none_iff (hflags s)).1 hs)
    simp only [readSettings, read_eq_ok hfs hflags, Environment.read_congr hvariables]

/-- If all texts that settings have from outside can be read, they are what is read. -/
theorem readSettings_eq_ok (hfs : Flag.AreProper fs)
    (hr : ∀ s text, used? fs env s = some text → s.Reads text) :
    readSettings (fs.flatMap Flag.words) env = .ok (Layer.ofTexts (used? fs env)) := by
  have hflags : ∀ s text, given? fs s = some text → s.Reads text :=
    fun s text h => hr s text (by simp [used?, h])
  have hopen : ∀ s, Layer.ofTexts (given? fs) s = none ↔ given? fs s = none :=
    fun s => Layer.ofTexts_eq_none_iff (hflags s)
  have hvariables : ∀ s text, Layer.ofTexts (given? fs) s = none →
      env.get? s.variableName = some text → s.Reads text :=
    fun s text h hget => hr s text (by simp [used?, (hopen s).1 h, hget])
  simp only [readSettings, read_eq_ok hfs hflags, Environment.read_eq_ok hvariables, hopen]
  congr 1
  funext s
  cases h : given? fs s <;> simp [Layer.upon, Layer.ofTexts, used?, h]

/-- A text that a setting has from outside and that cannot be read is told about. -/
theorem exists_readSettings_eq_error (hfs : Flag.AreProper fs)
    (hr : ∃ s text, used? fs env s = some text ∧ ¬s.Reads text) :
    ∃ s text fault, used? fs env s = some text ∧ s.kind.read text = .error fault ∧
      readSettings (fs.flatMap Flag.words) env = .error (.badValue s text fault) := by
  by_cases hflags : ∃ s text, given? fs s = some text ∧ ¬s.Reads text
  · obtain ⟨s, text, fault, hgiven, hfault, hread⟩ := CommandLine.exists_read_eq_error hfs hflags
    exact ⟨s, text, fault, by simp [used?, hgiven], hfault, by simp only [readSettings, hread]⟩
  · push Not at hflags
    have hopen : ∀ s, Layer.ofTexts (given? fs) s = none ↔ given? fs s = none :=
      fun s => Layer.ofTexts_eq_none_iff (hflags s)
    have hvariable : ∃ s text, Layer.ofTexts (given? fs) s = none ∧
        env.get? s.variableName = some text ∧ ¬s.Reads text := by
      obtain ⟨s, text, hused, hbad⟩ := hr
      rcases Option.or_eq_some_iff.1 hused with hgiven | ⟨hnone, hget⟩
      · exact absurd (hflags s text hgiven) hbad
      · exact ⟨s, text, (hopen s).2 hnone, hget, hbad⟩
    obtain ⟨s, text, fault, hnone, hget, hfault, hread⟩ :=
      Environment.exists_read_eq_error hvariable
    exact ⟨s, text, fault, by simp [used?, (hopen s).1 hnone, hget], hfault,
      by simp only [readSettings, read_eq_ok hfs hflags, hread]⟩

end StreamedInference
