/-
**Settings are read back.**

The settings in effect can be printed as a file.  Read again, that file must give the same settings,
or else an operator who keeps it runs something other than what was shown; and the same rules, or
else every webhook moves to another path.  Most fields can be left out of a file, so there are many
ways for a value to get lost: a field is left out though its reader takes something else to be its
default, or a part that is there but says nothing is taken for one that is not there.

Main definitions:

* `Sidecar.RoundTrips` — decoding undoes encoding, whatever the source;
* `Sidecar.Program.effective` — the settings in effect;
* `Sidecar.Settings.quoting` — settings with texts that cannot be written as they are.

Main results:

* `Sidecar.RoundTrips.of_readsBack` — what is read back makes the round trip in every source;
* `Sidecar.Settings.ofYaml?_toYaml`, `Sidecar.Settings.ofFile_toYaml` — **the text of settings gives
  these settings**, with or without the mark that starts a document;
* `Sidecar.Program.execute_dumpConfig_eq_iff` — what is printed for which settings;
* `Sidecar.Settings.roundTrips` — **settings, rules and all their parts make the round trip.**
-/

import Sidecar.Program
import Sidecar.Proofs.Fingerprint.Bytes
import Sidecar.Proofs.Rule.ReadBack
import Sidecar.Proofs.Yaml.Nodes

set_option autoImplicit false

namespace Sidecar

/-! ### Settings -/

section Settings

variable {δ : Type} [Source δ]

theorem ServiceSettings.readsBack (s : ServiceSettings) :
    ReadsBack (decode (δ := δ)) s.encode s := by
  obtain ⟨namespaceName, name, port, configuration, domain⟩ := s
  exact Fields.pure mk
    |>.ap (.given (readsBack_text namespaceName))
    |>.ap (.given (readsBack_text name))
    |>.ap (.given (readsBack_uint16 port))
    |>.ap (.given (readsBack_text configuration))
    |>.ap (.given (readsBack_text domain))
    |>.record (by rfl) (by decide)

theorem LogMode.readsBack (mode : LogMode) :
    ReadsBack (decode (δ := δ)) (.str mode.name) mode where
  ne_null := by simp
  regular := .str _
  decode_eq h := by
    cases h with
    | str _ _ hvariant =>
      rw [decode, hvariant names mode.name_mem_names, Except.map, ofName_name]

theorem LogSettings.readsBack (s : LogSettings) : ReadsBack (decode (δ := δ)) s.encode s := by
  obtain ⟨level, mode⟩ := s
  exact Fields.pure mk
    |>.ap (.given (readsBack_text level))
    |>.ap (.given (LogMode.readsBack mode))
    |>.record (by rfl) (by decide)

theorem ServerSettings.readsBack (s : ServerSettings) : ReadsBack (decode (δ := δ)) s.encode s := by
  obtain ⟨listenAddress, healthcheck, webhook, metrics⟩ := s
  exact Fields.pure mk
    |>.ap (.given (readsBack_text listenAddress))
    |>.ap (.given (readsBack_text healthcheck))
    |>.ap (.given (readsBack_text webhook))
    |>.ap (.given (readsBack_text metrics))
    |>.record (by rfl) (by decide)

/-- **Settings are read back as they are written.** -/
theorem Settings.readsBack (s : Settings) : ReadsBack (decode (δ := δ)) s.encode s := by
  obtain ⟨rules, service, log, server⟩ := s
  exact Fields.pure mk
    |>.ap (.given (.list Rule.readsBack rules))
    |>.ap (.given (ServiceSettings.readsBack service))
    |>.ap (.given (LogSettings.readsBack log))
    |>.ap (.given (ServerSettings.readsBack server))
    |>.record (by rfl) (by decide)

end Settings

/-! ### The round trip -/

/-- Decoding undoes encoding, whatever the source. -/
structure RoundTrips {α : Type} (decode : ∀ {δ : Type} [Source δ], δ → Except DecodeError α)
    (encode : α → Json) : Prop where
  /-- A value is read back from every value of any source that answers as what is written: -/
  decode_of_answers : ∀ {δ : Type} [Source δ] (a : α) (d : δ), Answers d (encode a) →
    decode d = .ok a
  /-- from the document, -/
  decode_encode : ∀ a, decode (encode a) = .ok a
  /-- from the document with its members in order, -/
  decode_canonical : ∀ a, decode (encode a).canonical = .ok a
  /-- from any text that yields the document, -/
  decode_yaml : ∀ a text, Yaml.yields text (encode a) = true →
    ∃ v, Yaml.Value.parse? text = some v ∧ decode v = .ok a
  /-- and from the text that is printed for it, which is one of these. -/
  decode_render : ∀ a, Yaml.yields (Yaml.render (encode a)) (encode a) = true
    ∧ ∃ v, Yaml.Value.parse? (Yaml.render (encode a)) = some v ∧ decode v = .ok a
  /-- To read and write again what has been read and written changes nothing. -/
  reencode : ∀ {δ : Type} [Source δ] (d : δ) (json : Json), (decode d).map encode = .ok json →
    (decode json).map encode = .ok json

/-- **What is read back makes the round trip** in every source. -/
theorem RoundTrips.of_readsBack {α : Type}
    {decode : ∀ {δ : Type} [Source δ], δ → Except DecodeError α} {encode : α → Json}
    (h : ∀ {δ : Type} [Source δ] (a : α), ReadsBack (δ := δ) decode (encode a) a) :
    RoundTrips decode encode := by
  have hself : ∀ a, decode (encode a) = .ok a := fun a =>
    (h a).decode_eq (Json.answers_self (h (δ := Json) a).regular)
  have hyaml : ∀ a text, Yaml.yields text (encode a) = true →
      ∃ v, Yaml.Value.parse? text = some v ∧ decode v = .ok a := by
    intro a text htext
    obtain ⟨v, hparse, hholds⟩ := Yaml.exists_of_yields htext
    have hanswers := Yaml.Value.answers_of_holds (h (δ := Json) a).regular hholds
    exact ⟨v, hparse, (h a).decode_eq hanswers⟩
  refine ⟨fun a d hd => (h a).decode_eq hd, hself, fun a => ?_, hyaml, fun a => ?_,
    fun d json hjson => ?_⟩
  · exact (h a).decode_eq (Json.answers_canonical (h (δ := Json) a).regular)
  · have hrender := (Yaml.yields_render (Yaml.hasNoFloats_of_isRegular (h (δ := Json) a).regular)).1
    exact ⟨hrender, hyaml a _ hrender⟩
  · cases hread : decode d with
    | error e =>
      rw [hread] at hjson
      cases hjson
    | ok a =>
      rw [hread] at hjson
      cases hjson
      rw [hself a]
      rfl

/-- A text that yields what is written for settings gives these. -/
theorem Settings.ofYaml?_of_yields {s : Settings} {text : String}
    (h : Yaml.yields text s.encode = true) : ofYaml? text = .ok s := by
  obtain ⟨v, hparse, hdecode⟩ :=
    (RoundTrips.of_readsBack Settings.readsBack).decode_yaml s text h
  simp only [ofYaml?, hparse, hdecode, Except.mapError]

/-- What is printed for settings yields what was written for them. -/
theorem Settings.yields_toYaml (s : Settings) :
    Yaml.yields s.toYaml s.encode = true ∧ Yaml.yields ("---\n" ++ s.toYaml) s.encode = true :=
  Yaml.yields_render (Yaml.hasNoFloats_of_isRegular (readsBack (δ := Json) s).regular)

/-- **The text of settings gives these settings.** -/
theorem Settings.ofYaml?_toYaml (s : Settings) : ofYaml? s.toYaml = .ok s :=
  ofYaml?_of_yields s.yields_toYaml.1

/-- **So does a file of that text**, and one in which a mark stands before it. -/
theorem Settings.ofFile_toYaml (s : Settings) :
    ofFile (.bytes s.toYaml.toUTF8) = .ok s
      ∧ ofFile (.bytes ("---\n" ++ s.toYaml).toUTF8) = .ok s := by
  constructor
  · simp only [ofFile, Feed.fromUTF8?_toUTF8, ofYaml?_toYaml]
  · simp only [ofFile, Feed.fromUTF8?_toUTF8, ofYaml?_of_yields s.yields_toYaml.2]

namespace Program

variable {κ : Type} (values : FlagValues) (filter : Option String) (files : String → File)
  (serial : BitVec 128) (t : Attempt κ)

/-- The settings in effect: those of the file that is named, with the values that are given. -/
def effective : Except SettingsError Settings :=
  (Settings.ofOptionalFile (files ((values.find? .configFile).getD settingsFile))).map values.change

/-- What is printed for which settings. -/
theorem execute_dumpConfig_eq_iff (text : String) :
    execute .dumpConfig values filter files serial t = .printed text
      ↔ ∃ s, effective values files = .ok s ∧ text = "---\n" ++ s.toYaml := by
  cases hfile : Settings.ofOptionalFile (files ((values.find? .configFile).getD settingsFile)) with
  | error e => simp [execute, effective, hfile, Except.map]
  | ok s => simp [execute, effective, hfile, Except.map, eq_comm]

/-- If the file is the text of settings, the values change these. -/
theorem effective_toYaml (s : Settings) :
    effective values (fun _ => .bytes s.toYaml.toUTF8) = .ok (values.change s) := by
  simp only [effective, Settings.ofOptionalFile, s.ofFile_toYaml.1, Except.map]

end Program

/-- **Settings, rules and all their parts make the round trip.**  Each is read back from what is
written for it, in every source, and to write again what has been read changes nothing.  So the text
of settings gives the same settings, with the same fingerprints; and so does the text in which the
program prints the settings in effect, which the program prints again if that is its file. -/
theorem Settings.roundTrips :
    (RoundTrips @Settings.decode Settings.encode
      ∧ RoundTrips @ServiceSettings.decode ServiceSettings.encode
      ∧ RoundTrips @LogSettings.decode LogSettings.encode
      ∧ RoundTrips @LogMode.decode (fun mode => .str mode.name)
      ∧ RoundTrips @ServerSettings.decode ServerSettings.encode)
    ∧ (RoundTrips @Rule.decode Rule.encode
      ∧ (∀ kind, RoundTrips (Rule.Requirement.decode kind) Rule.Requirement.encode)
      ∧ RoundTrips @Rule.LabelSelector.decode Rule.LabelSelector.encode
      ∧ RoundTrips @Rule.NodeSelectorTerm.decode Rule.NodeSelectorTerm.encode
      ∧ RoundTrips @Rule.NodeSelector.decode Rule.NodeSelector.encode
      ∧ RoundTrips @Rule.NodeAffinity.decode Rule.NodeAffinity.encode
      ∧ RoundTrips @Rule.Affinity.decode Rule.Affinity.encode
      ∧ RoundTrips @Rule.Toleration.decode Rule.Toleration.encode
      ∧ RoundTrips @Rule.KeyToPath.decode Rule.KeyToPath.encode
      ∧ RoundTrips @Rule.ConfigMapSource.decode Rule.ConfigMapSource.encode
      ∧ RoundTrips @Rule.SecretSource.decode Rule.SecretSource.encode
      ∧ RoundTrips @Rule.EmptyDirSource.decode Rule.EmptyDirSource.encode
      ∧ RoundTrips @Rule.Volume.decode Rule.Volume.encode
      ∧ RoundTrips @Rule.VolumeMount.decode Rule.VolumeMount.encode
      ∧ RoundTrips @Rule.EnvVar.decode Rule.EnvVar.encode
      ∧ RoundTrips @Rule.ContainerPort.decode Rule.ContainerPort.encode
      ∧ RoundTrips @Rule.Resources.decode Rule.Resources.encode
      ∧ RoundTrips @Rule.Container.decode Rule.Container.encode)
    ∧ (∀ s : Settings, ∃ loaded, ofYaml? s.toYaml = .ok loaded ∧ loaded = s
      ∧ loaded.rules.map Rule.fingerprint = s.rules.map Rule.fingerprint)
    ∧ ∀ {κ : Type} (values : FlagValues) (filter : Option String) (files : String → File)
      (serial : BitVec 128) (t : Attempt κ) (text : String),
      Program.execute .dumpConfig values filter files serial t = .printed text →
      ∃ s loaded, Program.effective values files = .ok s ∧ text = "---\n" ++ s.toYaml
        ∧ ofFile (.bytes text.toUTF8) = .ok loaded ∧ loaded = s
        ∧ loaded.rules.map Rule.fingerprint = s.rules.map Rule.fingerprint
        ∧ Program.execute .dumpConfig [] filter (fun _ => .bytes text.toUTF8) serial t
          = .printed text := by
  refine ⟨⟨.of_readsBack Settings.readsBack, .of_readsBack ServiceSettings.readsBack,
      .of_readsBack LogSettings.readsBack, .of_readsBack LogMode.readsBack,
      .of_readsBack ServerSettings.readsBack⟩,
    ⟨.of_readsBack Rule.readsBack, fun kind => .of_readsBack (Rule.Requirement.readsBack kind),
      .of_readsBack Rule.LabelSelector.readsBack, .of_readsBack Rule.NodeSelectorTerm.readsBack,
      .of_readsBack Rule.NodeSelector.readsBack, .of_readsBack Rule.NodeAffinity.readsBack,
      .of_readsBack Rule.Affinity.readsBack, .of_readsBack Rule.Toleration.readsBack,
      .of_readsBack Rule.KeyToPath.readsBack, .of_readsBack Rule.ConfigMapSource.readsBack,
      .of_readsBack Rule.SecretSource.readsBack, .of_readsBack Rule.EmptyDirSource.readsBack,
      .of_readsBack Rule.Volume.readsBack, .of_readsBack Rule.VolumeMount.readsBack,
      .of_readsBack Rule.EnvVar.readsBack, .of_readsBack Rule.ContainerPort.readsBack,
      .of_readsBack Rule.Resources.readsBack, .of_readsBack Rule.Container.readsBack⟩,
    fun s => ⟨s, s.ofYaml?_toYaml, rfl, rfl⟩, ?_⟩
  intro κ values filter files serial t text hprinted
  obtain ⟨s, heffective, rfl⟩ :=
    (Program.execute_dumpConfig_eq_iff values filter files serial t text).1 hprinted
  refine ⟨s, s, heffective, rfl, s.ofFile_toYaml.2, rfl, rfl, ?_⟩
  refine (Program.execute_dumpConfig_eq_iff [] filter _ serial t _).2 ⟨s, ?_, rfl⟩
  simp only [Program.effective, ofOptionalFile, s.ofFile_toYaml.2, Except.map,
    FlagValues.change_nil]

/-- A rule most of whose texts cannot be written as they are: some would be read as something else,
one needs an escape, and two have lines of their own, one of these the name of a label. -/
def Rule.quoting : Rule :=
  { (default : Rule) with
    name := "true"
    labels := .ofList [("bell", "\u0007"), ("null", "- x"), ("two\nlines", "a\n\nb\n")]
    affinity := some ⟨none⟩ }

/-- Settings with this rule and one that says nothing. -/
def Settings.quoting : Settings :=
  { rules := [Rule.quoting, default], server := { pathWebhook := "/a: b" } }

theorem Settings.roundTrips_of_quoting :
    Yaml.render Rule.quoting.encode =
      "name: 'true'\nmaxIterations: 1\nlabels:\n  bell: \"\\a\"\n  'null': '- x'\n"
        ++ "  ? |-\n    two\n    lines\n  : |\n    a\n\n    b\naffinity: \x7b\x7d\n"
    ∧ (∃ loaded, ofYaml? quoting.toYaml = .ok loaded ∧ loaded = quoting
      ∧ loaded.rules.map Rule.fingerprint = quoting.rules.map Rule.fingerprint)
    ∧ Program.execute .dumpConfig [(.logMode, "dev")] none
        (fun _ => .bytes quoting.toYaml.toUTF8) 0 ⟨(), (), .epoch, fun _ => none⟩
      = .printed ("---\n" ++ { quoting with log.mode := .dev }.toYaml)
    ∧ ∃ s loaded,
      Program.effective [(.logMode, "dev")] (fun _ => .bytes quoting.toYaml.toUTF8) = .ok s
        ∧ "---\n" ++ { quoting with log.mode := .dev }.toYaml = "---\n" ++ s.toYaml
        ∧ ofFile (.bytes ("---\n" ++ { quoting with log.mode := .dev }.toYaml).toUTF8) = .ok loaded
        ∧ loaded = s
        ∧ loaded.rules.map Rule.fingerprint = s.rules.map Rule.fingerprint
        ∧ Program.execute .dumpConfig [] none
            (fun _ => .bytes ("---\n" ++ { quoting with log.mode := .dev }.toYaml).toUTF8) 0
            ⟨(), (), .epoch, fun _ => none⟩
          = .printed ("---\n" ++ { quoting with log.mode := .dev }.toYaml) := by
  have hprinted : Program.execute .dumpConfig [(.logMode, "dev")] none
      (fun _ => .bytes quoting.toYaml.toUTF8) 0 ⟨(), (), .epoch, fun _ => none⟩
      = .printed ("---\n" ++ { quoting with log.mode := .dev }.toYaml) :=
    (Program.execute_dumpConfig_eq_iff _ _ _ _ _ _).2
      ⟨_, Program.effective_toYaml _ quoting, rfl⟩
  have hread := Settings.roundTrips.2.2.2 _ _ _ _ _ _ hprinted
  exact ⟨by decide +kernel, Settings.roundTrips.2.2.1 quoting, hprinted, hread⟩

end Sidecar
