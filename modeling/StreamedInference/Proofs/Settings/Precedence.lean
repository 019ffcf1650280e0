import StreamedInference.Proofs.Settings.Acceptance
import StreamedInference.Proofs.Settings.Flags

/-!
# Which source counts

A setting has its value from its flag, or else from its variable, or else from its default, and from
one of them alone: what stands in a variable whose flag is given does not matter, and no default
stands in for a text that cannot be read.

## Main definitions

* `Setting.defaultText?`: the text that a setting has when nothing is said about it.
* `Configuration.Shows`: where a configuration shows the values of the settings.

## Main results

* `Configuration.shows_ofLayer`, `Configuration.Shows.unique`: what is made up of settings and
  defaults is the one configuration that shows them.
* `Configuration.load_by_precedence`: from flags and variables to a configuration.
-/

namespace StreamedInference

/-- The text that stands for a setting about which nothing is said. There is none for a model's own
path, nor for an address to advertise. -/
def Setting.defaultText? : Setting → Option String
  | .serverName => "llm-inference"
  | .environment => "development"
  | .listenHost => "0.0.0.0"
  | .grpcPort => "8083"
  | .modelName => "Qwen/Qwen3-0.6B"
  | .modelDir => "model"
  | .modelPath => none
  | .maxTokens => "100"
  | .temperature => "0.7"
  | .repetitionPenalty => "1.05"
  | .topP => "0.7"
  | .topK => "40"
  | .maxWorkers => "10"
  | .streamBufferSize => "32"
  | .shutdownGraceSecs => "5"
  | .advertiseIp => none
  | .consulAddress => "localhost:8500"
  | .disableRegistry => "false"
  | .closeOnGenerationError => "false"
  | .cumulativeTokenCount => "false"
  | .honorTemperatureOverride => "true"
  | .gpuLayers => "99"
  | .contextSize => "4096"

attribute [ext] Sampling SessionPolicy ModelSource RegistrySettings Configuration

namespace Configuration

/-- Where a configuration shows the values of the settings. -/
structure Shows (c : Configuration) (l : Layer) : Prop where
  serverName : l .serverName = some c.serverName
  environment : l .environment = some c.environment
  /-- The host and the port together. -/
  listenAddress : (l .listenHost).map (· ++ ":" ++ toString c.port.toNat) = some c.listenAddress
  port : l .grpcPort = some c.port
  modelName : l .modelName = some c.model.name
  /-- The model's own path, or else its name within the directory. -/
  modelPath : (l .modelPath).or ((l .modelDir).map (Path.join · c.model.name)) = some c.model.path
  gpuLayers : l .gpuLayers = some c.model.gpuLayers
  contextSize : l .contextSize = some c.model.contextSize
  maxTokens : l .maxTokens = some c.sampling.maxNewTokens
  temperature : l .temperature = some c.sampling.temperature
  repetitionPenalty : l .repetitionPenalty = some c.sampling.repetitionPenalty
  topP : l .topP = some c.sampling.topP
  topK : l .topK = some c.sampling.topK
  closeOnGenerationError : l .closeOnGenerationError = some c.policy.closeOnGenerationError
  cumulativeTokenCount : l .cumulativeTokenCount = some c.policy.cumulativeTokenCount
  honorTemperatureOverride : l .honorTemperatureOverride = some c.policy.honorTemperatureOverride
  streamBufferSize : l .streamBufferSize = some c.policy.streamBufferSize
  maxWorkers : l .maxWorkers = some c.maxWorkers
  shutdownGraceSecs : l .shutdownGraceSecs = some c.shutdownGraceSecs
  disableRegistry : l .disableRegistry = some (!c.registry.enabled)
  consulAddress : l .consulAddress = some c.registry.agentAddress
  advertiseIp : l .advertiseIp = c.registry.advertised

variable {c c' : Configuration} {l : Layer} {u : Setting → Option String} {s : Setting}

/-- Settings are shown by one configuration at most. -/
theorem Shows.unique (h : c.Shows l) (h' : c'.Shows l) : c = c' := by
  have hport : c.port = c'.port := Option.mem_unique h.port h'.port
  have hname : c.model.name = c'.model.name := Option.mem_unique h.modelName h'.modelName
  apply Configuration.ext
  · exact Option.mem_unique h.serverName h'.serverName
  · exact Option.mem_unique h.environment h'.environment
  · exact Option.mem_unique h.listenAddress (hport ▸ h'.listenAddress)
  · exact hport
  · apply ModelSource.ext
    · exact hname
    · exact Option.mem_unique h.modelPath (hname ▸ h'.modelPath)
    · exact Option.mem_unique h.gpuLayers h'.gpuLayers
    · exact Option.mem_unique h.contextSize h'.contextSize
  · apply Sampling.ext
    · exact Option.mem_unique h.maxTokens h'.maxTokens
    · exact Option.mem_unique h.temperature h'.temperature
    · exact Option.mem_unique h.repetitionPenalty h'.repetitionPenalty
    · exact Option.mem_unique h.topP h'.topP
    · exact Option.mem_unique h.topK h'.topK
  · apply SessionPolicy.ext
    · exact Option.mem_unique h.closeOnGenerationError h'.closeOnGenerationError
    · exact Option.mem_unique h.cumulativeTokenCount h'.cumulativeTokenCount
    · exact Option.mem_unique h.honorTemperatureOverride h'.honorTemperatureOverride
    · exact Option.mem_unique h.streamBufferSize h'.streamBufferSize
  · exact Option.mem_unique h.maxWorkers h'.maxWorkers
  · exact Option.mem_unique h.shutdownGraceSecs h'.shutdownGraceSecs
  · apply RegistrySettings.ext
    · exact Bool.not_inj (Option.mem_unique h.disableRegistry h'.disableRegistry)
    · exact Option.mem_unique h.consulAddress h'.consulAddress
    · exact h.advertiseIp.symm.trans h'.advertiseIp

/-- A text from outside counts, and the default where there is none. -/
theorem ofTexts_or_defaultText? (hu : ∀ s text, u s = some text → s.Reads text) {text : String}
    {v : s.Value} (htext : s.defaultText? = some text) (hv : s.value? text = some v) :
    Layer.ofTexts (fun s => (u s).or s.defaultText?) s =
      some (setting (Layer.ofTexts u) s v) := by
  cases hused : u s with
  | none => simp [Layer.ofTexts, setting, hused, htext, hv]
  | some used =>
    obtain ⟨w, hw⟩ := Option.isSome_iff_exists.1 (Setting.isSome_value?_iff.2 (hu s used hused))
    simp [Layer.ofTexts, setting, hused, hw]

/-- Without a default only a text from outside counts. -/
theorem ofTexts_or_none (htext : s.defaultText? = none) :
    Layer.ofTexts (fun s => (u s).or s.defaultText?) s = Layer.ofTexts u s := by
  simp [Layer.ofTexts, htext]

/-- What settings and defaults make up shows the texts from outside that can be read, and the
defaults where there are none. -/
theorem shows_ofLayer (hu : ∀ s text, u s = some text → s.Reads text) :
    (ofLayer (Layer.ofTexts u)).Shows (Layer.ofTexts fun s => (u s).or s.defaultText?) where
  serverName := ofTexts_or_defaultText? hu rfl rfl
  environment := ofTexts_or_defaultText? hu rfl rfl
  listenAddress := by
    rw [ofTexts_or_defaultText? (v := defaultHost) hu rfl rfl]
    rfl
  port := ofTexts_or_defaultText? hu rfl (by decide +kernel)
  modelName := ofTexts_or_defaultText? hu rfl rfl
  modelPath := by
    rw [ofTexts_or_none rfl,
      ofTexts_or_defaultText? (v := defaultModelDir) hu rfl (by decide +kernel)]
    cases h : Layer.ofTexts u .modelPath <;> simp [ofLayer, modelOf, h]
  gpuLayers := ofTexts_or_defaultText? hu rfl (by decide +kernel)
  contextSize := ofTexts_or_defaultText? hu rfl (by decide +kernel)
  maxTokens := ofTexts_or_defaultText? hu rfl (by decide +kernel)
  temperature := ofTexts_or_defaultText? hu rfl (by decide +kernel)
  repetitionPenalty := ofTexts_or_defaultText? hu rfl (by decide +kernel)
  topP := ofTexts_or_defaultText? hu rfl (by decide +kernel)
  topK := ofTexts_or_defaultText? hu rfl (by decide +kernel)
  closeOnGenerationError := ofTexts_or_defaultText? hu rfl (by decide +kernel)
  cumulativeTokenCount := ofTexts_or_defaultText? hu rfl (by decide +kernel)
  honorTemperatureOverride := ofTexts_or_defaultText? hu rfl (by decide +kernel)
  streamBufferSize := ofTexts_or_defaultText? hu rfl (by decide +kernel)
  maxWorkers := ofTexts_or_defaultText? hu rfl (by decide +kernel)
  shutdownGraceSecs := ofTexts_or_defaultText? hu rfl (by decide +kernel)
  disableRegistry := by
    rw [ofTexts_or_defaultText? (v := false) hu rfl (by decide +kernel)]
    simp [ofLayer, registryOf]
  consulAddress := ofTexts_or_defaultText? hu rfl rfl
  advertiseIp := ofTexts_or_none rfl

open CommandLine

/-- **Each setting has its value from one source.** The flags are of different settings; each is
spelt in one word or in two, the second of which does not begin with a dash.

* If the texts of the flags can be read, neither the order of the flags nor their spelling matters.
* If all texts that settings have from outside can be read, there is one configuration that shows
  them, with the defaults for all other settings. It is loaded, or else the first check that it
  fails is told about.
* If a text that a setting has from outside cannot be read, nothing is loaded, and such a text is
  told about.
* What the variables of settings hold whose flags are given does not matter. -/
theorem load_by_precedence {fs : List Flag} (hfs : Flag.AreProper fs) (env : Environment) :
    ((∀ f ∈ fs, f.setting.Reads f.text) → ∀ gs : List Flag, (∀ g ∈ gs, g.IsPlain) →
      (gs.map Flag.content).Perm (fs.map Flag.content) →
      load (gs.flatMap Flag.words) env = load (fs.flatMap Flag.words) env) ∧
    ((∀ s text, used? fs env s = some text → s.Reads text) →
      let l := Layer.ofTexts fun s => (used? fs env s).or s.defaultText?
      (∃ c : Configuration, c.Shows l) ∧ ∀ c : Configuration, c.Shows l →
        load (fs.flatMap Flag.words) env =
          match c.fault? with
          | some fault => .error (.rejected fault)
          | none => .ok c) ∧
    ((∃ s text, used? fs env s = some text ∧ ¬s.Reads text) →
      ∃ s text fault, used? fs env s = some text ∧ s.kind.read text = .error fault ∧
        load (fs.flatMap Flag.words) env = .error (.usage (.badValue s text fault))) ∧
    ∀ env' : Environment,
      (∀ s, given? fs s = none → env.get? s.variableName = env'.get? s.variableName) →
      load (fs.flatMap Flag.words) env = load (fs.flatMap Flag.words) env' := by
  refine ⟨fun hr gs hgs hperm => ?_, fun hu => ⟨⟨_, shows_ofLayer hu⟩, fun c hc => ?_⟩,
    fun hbad => ?_, fun env' h => ?_⟩
  · have hgiven : ∀ s text, given? fs s = some text → s.Reads text := by
      intro s text h
      obtain ⟨f, hf, heq⟩ := List.mem_map.1 ((given?_eq_some_iff hfs).1 h)
      cases heq
      exact hr f hf
    simp only [load, readSettings, read_eq_of_perm hfs hgs hperm hgiven]
  · obtain rfl := hc.unique (shows_ofLayer hu)
    simp only [load, readSettings_eq_ok hfs hu, ofLayer?]
    cases (ofLayer (Layer.ofTexts (used? fs env))).fault? <;> rfl
  · obtain ⟨s, text, fault, hused, hfault, hread⟩ := exists_readSettings_eq_error hfs hbad
    exact ⟨s, text, fault, hused, hfault, by simp only [load, hread]⟩
  · simp only [load, readSettings_congr hfs h]

/-- A variable that cannot be read is hidden by its flag, another one counts, and without its flag
it is told about. -/
theorem load_by_precedence_of_hidden :
    let env : Environment := [("MAX_WORKERS", "many"), ("GPU_LAYERS", "12")]
    (∃ c, load ["--max-workers", "3", "--temperature=-0"] env = .ok c ∧ c.maxWorkers = 3 ∧
      c.model.gpuLayers = 12 ∧ c.sampling.topK = 40) ∧
    load ["--temperature=-0", "--max-workers=3"] env =
      load ["--max-workers", "3", "--temperature=-0"] env ∧
    load ["--max-workers", "3", "--temperature=-0"] env =
      load ["--max-workers", "3", "--temperature=-0"] [("GPU_LAYERS", "12")] ∧
    ∃ s text fault, load [] env = .error (.usage (.badValue s text fault)) := by
  intro env
  let fs : List Flag := [⟨.maxWorkers, "3", false⟩, ⟨.temperature, "-0", true⟩]
  let gs : List Flag := [⟨.temperature, "-0", true⟩, ⟨.maxWorkers, "3", true⟩]
  have hfs : Flag.AreProper fs := by decide
  have hreads : ∀ f ∈ fs, f.setting.Reads f.text := by decide +kernel
  have hused : ∀ s ∈ Setting.all, ∀ text ∈ used? fs env s, s.Reads text := by decide +kernel
  have hvariables : ∀ s ∈ Setting.all, given? fs s = none →
      env.get? s.variableName = Environment.get? [("GPU_LAYERS", "12")] s.variableName := by
    decide +kernel
  have hu : ∀ s text, used? fs env s = some text → s.Reads text :=
    fun s text => hused s (Setting.mem_all s) text
  obtain ⟨horder, hloads, -, hhidden⟩ := load_by_precedence hfs env
  have hfault : (ofLayer (Layer.ofTexts (used? fs env))).fault? = none := by decide +kernel
  have hload := (hloads hu).2 _ (shows_ofLayer hu)
  rw [hfault] at hload
  have hnone : Flag.AreProper [] := by decide
  obtain ⟨-, -, hbad, -⟩ := load_by_precedence hnone env
  obtain ⟨s, text, fault, -, -, herror⟩ := hbad ⟨.maxWorkers, "many", by decide, by decide +kernel⟩
  exact ⟨⟨_, hload, by decide +kernel, by decide +kernel, by decide +kernel⟩,
    horder hreads gs (by decide) (List.Perm.swap _ _ _),
    hhidden _ fun s => hvariables s (Setting.mem_all s), s, text, fault, herror⟩

end Configuration

end StreamedInference
