import Mathlib.Logic.Function.Basic
import SmartScale.Proofs.Cli.Display
import SmartScale.Proofs.Cli.Workplace
import SmartScale.Proofs.Run.Transcript

/-!
# What `classify` prints

A call that classifies recorded readings prints the transcript of the readings that are admitted
under its cap, made with the record that the store holds: the events that are asked for, each with
the number of its reading, and a last line that counts all of them, printed or not.

The lines are spelled out for both formats (`Event.spelled`, `Summary.spelled`), and one can tell from
them which events are printed and what is counted (`Transcript.printed_inj`).

The transcript knows of no format, no mode and no thread.  So a call for machines prints the events
that a call for people prints; and a run in any mode comes to the same, be it the one that the call
carries out (`CommandContext.classify_eq`) or a sampled one in which thread and consumer take turns
in another order.

Readings that cannot be read as such end the call before the store is looked at.
-/

namespace SmartScale

namespace Transcript

/-- The events that are asked for. -/
def selected (t : Transcript) (all : Bool) : List Event :=
  t.events.filter fun e => all || e.outcome != .noChange

/-- One line for each event that is asked for, and the last one. -/
def lines (t : Transcript) (all json : Bool) : List String :=
  (t.selected all).map (·.spelled json) ++ [t.summary.spelled json]

def printed (t : Transcript) (all json : Bool) : String := unlines (t.lines all json)

/-- The program makes the lines in another way. -/
theorem printed_eq (t : Transcript) (all json : Bool) : t.printed all json =
    unlines ((t.selected all).map (·.present json) ++ [t.summary.present json]) := by
  simp only [printed, lines, Event.present_eq, Summary.present_eq]

theorem splitOn_printed (t : Transcript) (all json : Bool) :
    (t.printed all json).toList.splitOn '\n' = (t.lines all json).map String.toList ++ [[]] := by
  apply splitOn_unlines
  intro line hline
  rcases List.mem_append.mp hline with hevent | hlast
  · rcases List.mem_map.mp hevent with ⟨event, -, rfl⟩
    exact event.lineFeed_not_mem_spelled json
  · rw [List.mem_singleton.mp hlast]
    exact t.summary.lineFeed_not_mem_spelled json

/-- From what is printed the numbers and the outcomes of the events can be told, and all counts. -/
theorem printed_inj {a b : Transcript} {all json : Bool}
    (h : a.printed all json = b.printed all json) :
    ((a.selected all).map fun e => (e.sample, e.outcome)) =
        ((b.selected all).map fun e => (e.sample, e.outcome)) ∧
      a.summary = b.summary := by
  have hlines : a.lines all json = b.lines all json := by
    have hpieces := congrArg (fun text => text.toList.splitOn '\n') h
    simp only [splitOn_printed, List.append_left_inj] at hpieces
    exact List.map_injective_iff.mpr (fun _ _ => String.toList_inj.mp) hpieces
  rw [lines, lines] at hlines
  rcases List.append_inj' hlines (by simp) with ⟨hevents, hlast⟩
  have hsummary : a.summary.spelled json = b.summary.spelled json := List.singleton_inj.mp hlast
  -- number and outcome of an event are a function of its line
  have hfactors : Function.FactorsThrough (fun e : Event => (e.sample, e.outcome))
      (fun e => e.spelled json) :=
    fun _ _ hline => Prod.ext (Event.spelled_inj hline).1 (Event.spelled_inj hline).2.1
  have hnonempty : Nonempty (Nat × Outcome) := ⟨(0, .noChange)⟩
  rcases (Function.factorsThrough_iff _).mp hfactors with ⟨read, hread⟩
  refine ⟨?_, Summary.spelled_inj hsummary⟩
  rw [hread, ← List.map_map, ← List.map_map, hevents]

theorem outcome_of_not_isValid {t : Thresholds} {record : Record} {values : List Reading}
    (h : record.isValid = false) :
    ∀ event ∈ (ofReadings t record values).events, event.outcome = .noChange := by
  intro event hmem
  rw [ofReadings, Debounce.outcomes_of_not_isValid h] at hmem
  rcases List.mem_mapIdx.mp hmem with ⟨i, hi, rfl⟩
  simp

end Transcript

/-! ## The command -/

namespace CommandContext

variable {c : CommandContext} {input : Option String} {bytes : List UInt8} {all paced : Bool}
  {maxSamples : Option Nat}

theorem classify_eq_fail {e : ReadingsError} (hinput : c.input input = .ok bytes)
    (hparse : Readings.parse bytes = .error e) :
    c.classify input all paced maxSamples = c.fail e.toReport := by
  have hreadings : c.readings input = .error e.toReport := by
    rw [readings, hinput, Except.bind, hparse]
    rfl
  rw [classify, hreadings]

theorem classify_eq {values : List Reading} {content : Option Image}
    (hthresholds : c.config.detector.check = .ok ())
    (hfits : AddressRange.fits c.config.store.address recordLength
      c.config.store.capacity.toNat = true)
    (hheld : c.disk.Holds c.config.store.path content) (hinput : c.input input = .ok bytes)
    (hparse : Readings.parse bytes = .ok values) :
    c.classify input all paced maxSamples =
      c.answer ((Transcript.ofReadings c.config.detector (c.config.store.recordIn content)
        (Run.admitted maxSamples values)).printed all c.json) := by
  let detector := c.detectorWith content (c.config.store.recordIn content)
  let fed := (Run.admitted maxSamples values).foldl Run.feed (Run.start detector)
  let due := Transcript.ofReadings c.config.detector (c.config.store.recordIn content)
    (Run.admitted maxSamples values)
  have hreadings : c.readings input = .ok values := by
    rw [readings, hinput, Except.bind, hparse]
    rfl
  have hrun : runReadings (c.runParams paced maxSamples) values detector = ⟨fed, none⟩ := by
    rw [runReadings, Run.start?_ofList rfl]
    rfl
  have htranscript : (⟨fed.events, fed.summary⟩ : Transcript) = due :=
    Run.transcript_foldl_feed rfl _
  have hevents : fed.events = due.events := congrArg Transcript.events htranscript
  have hsummary : fed.summary = due.summary := congrArg Transcript.summary htranscript
  rw [classify, hreadings]
  dsimp only
  rw [withDetector, openDetector_of_holds hthresholds hfits hheld]
  dsimp only
  rw [hrun]
  dsimp only
  rw [hevents, hsummary, Transcript.printed_eq]
  rfl

end CommandContext

/-! ## The call -/

/-- A call that classifies, with what it works on. -/
structure Classifying where
  invocation : Invocation
  /-- The configuration, its paths relative to its own place. -/
  config : Config
  input : Option String
  all : Bool
  paced : Bool
  maxSamples : Option Nat
  /-- The text of the readings. -/
  text : List UInt8

namespace Classifying

def context (k : Classifying) (disk : Disk) (call : Call) : CommandContext where
  config := Session.locateStore (Path.parent k.invocation.config) k.config
  json := k.invocation.json
  disk := disk
  stdin := call.stdin

/-- The call is made on the disk: it finds its configuration, which keeps no log file, and the text
of the readings; its filter of log lines is accepted. -/
structure Made (k : Classifying) (disk : Disk) (call : Call) : Prop where
  parsed : Arguments.parse call.arguments = .ok k.invocation
  command : k.invocation.command = .classify k.input k.all k.paced k.maxSamples
  config : Session.readConfig disk k.invocation.config = .ok k.config
  noLogFile : k.config.logging.file = none
  level : (Session.checkLogLevel
    ((k.invocation.logLevel.or k.config.logging.level).getD Session.defaultLogLevel)).isOk = true
  text : (k.context disk call).input k.input = .ok k.text

variable {k : Classifying} {disk : Disk} {call : Call}

theorem Made.run_eq (h : k.Made disk call) :
    call.run disk = Completion.ofResponse k.invocation.json
      ((k.context disk call).classify k.input k.all k.paced k.maxSamples) := by
  have hperform : Session.perform disk call.stdin k.invocation =
      (k.context disk call).perform k.invocation.command :=
    Session.perform_eq h.config h.noLogFile h.level call.stdin
  rw [Call.run, Session.run, h.parsed]
  dsimp only
  rw [hperform, h.command]
  rfl

/-- The call fails before it looks at the store. -/
theorem Made.run_of_error (h : k.Made disk call) {e : ReadingsError}
    (hparse : Readings.parse k.text = .error e) :
    call.run disk = Completion.ofResponse k.invocation.json
      ⟨"", disk, some (.explained e.toReport)⟩ := by
  rw [h.run_eq, CommandContext.classify_eq_fail h.text hparse]
  rfl

/-- The call prints the transcript that belongs to the record in the store. -/
theorem Made.run_of_ok (h : k.Made disk call) {values : List Reading} {content : Option Image}
    (hparse : Readings.parse k.text = .ok values)
    (hheld : disk.Holds (k.context disk call).config.store.path content) :
    call.run disk = ⟨Completion.success,
      (Transcript.ofReadings k.config.detector (k.config.store.recordIn content)
        (Run.admitted k.maxSamples values)).printed k.all k.invocation.json, "", disk⟩ := by
  let c := k.context disk call
  have hcheck : k.config.check = .ok () := Session.check_of_readConfig h.config
  -- the command's configuration differs from the checked one in the store's path alone
  have hthresholds : c.config.detector.check = .ok () :=
    Config.thresholds_of_check (c := k.config) hcheck
  have hfits : AddressRange.fits c.config.store.address recordLength
      c.config.store.capacity.toNat = true := Config.fits_of_check (c := k.config) hcheck
  have hclassify : c.classify k.input k.all k.paced k.maxSamples =
      c.answer ((Transcript.ofReadings k.config.detector (k.config.store.recordIn content)
        (Run.admitted k.maxSamples values)).printed k.all k.invocation.json) :=
    CommandContext.classify_eq hthresholds hfits hheld h.text hparse
  rw [h.run_eq, hclassify]
  rfl

/-- A call that classifies prints the transcript of its readings.

A text that does not parse fails the call with nothing printed, whatever is at the store's path.
Any other text succeeds, with the record that the store's file holds, whatever the file is: what is
printed is one line after the other, for each event that is asked for and for the summary.  If there
is no valid record, nothing but `noChange` is said.  Every sampled run over the readings with the
same cap, whatever its mode and the order of its turns, comes to the same transcript if it ends
well. -/
theorem prints_transcript (h : k.Made disk call) :
    (∀ e, Readings.parse k.text = .error e →
      call.run disk = Completion.ofResponse k.invocation.json
          ⟨"", disk, some (.explained e.toReport)⟩ ∧
        (call.run disk).code = Completion.failure ∧ (call.run disk).stdout = "") ∧
    ∀ values content, Readings.parse k.text = .ok values →
      disk.Holds (k.context disk call).config.store.path content →
      let record := k.config.store.recordIn content
      let due := Transcript.ofReadings k.config.detector record (Run.admitted k.maxSamples values)
      call.run disk = ⟨Completion.success, due.printed k.all k.invocation.json, "", disk⟩ ∧
      (call.run disk).stdout.toList.splitOn '\n' =
        (due.lines k.all k.invocation.json).map String.toList ++ [[]] ∧
      (record.isValid = false → ∀ event ∈ due.events, event.outcome = .noChange) ∧
      ∀ (params : RunParams) (turns : List Turn), params.maxSamples = k.maxSamples →
        params.shutdownAfter = none →
        let r := (SampledRun.start params ((k.context disk call).detectorWith content record)
          (SimulatedScale.ofList values false)).play params turns
        r.stage = .ended none →
          r.run.events = due.events ∧ r.run.summary = due.summary := by
  constructor
  · intro e hparse
    rw [h.run_of_error hparse]
    exact ⟨rfl, rfl, rfl⟩
  · intro values content hparse hheld record due
    have hrun := h.run_of_ok hparse hheld
    refine ⟨hrun, ?_, Transcript.outcome_of_not_isValid, ?_⟩
    · rw [hrun]
      exact due.splitOn_printed k.all k.invocation.json
    intro params turns hcap hasked r hended
    have htranscript : (⟨r.run.events, r.run.summary⟩ : Transcript) = due := by
      rw [SampledRun.play_ofList hasked hended, hcap]
      exact Run.transcript_foldl_feed rfl _
    exact ⟨congrArg Transcript.events htranscript, congrArg Transcript.summary htranscript⟩

/-- Five readings, of which the fourth confirms the object; the comment and the empty line have no
number.  One call admits four of them, and another one prints all of them for machines. -/
theorem prints_transcript_four_of_five :
    let config : Config := ⟨⟨"s", 4, 64⟩, Thresholds.default, .default, .default, none, []⟩
    let record := (Record.empty.setObject 1 ⟨0x42c80000⟩ ⟨0x40a00000⟩).stamp
    let file : Image := List.replicate 4 0 ++ record.encode
    let disk : Disk := ⟨["work"],
      [(["work", "c"],
        .file (Utf8.encode "[store]\npath = \"s\"\naddress = 4\ncapacity = 64\n")),
        (["work", "s"], .file file)]⟩
    let text := Utf8.encode "100 # first\n\n100\n100\n100\n0\n"
    let call : Call := ⟨text, ["--config", "c", "classify", "--max-samples", "4"]⟩
    let k : Classifying := ⟨⟨"c", false, none, .classify none false false (some 4)⟩, config, none,
      false, false, some 4, text⟩
    let jsonCall : Call := ⟨text, ["--config", "c", "--json", "classify", "--all"]⟩
    let jsonK : Classifying := ⟨⟨"c", true, none, .classify none true false none⟩, config, none,
      true, false, none, text⟩
    k.Made disk call ∧ (call.run disk).code = Completion.success ∧
      (call.run disk).stdout = "#3        100.000 -> object 1\n" ++
        "samples=4 confirmations=[0, 1, 0, 0] no_object=0 no_match=0\n" ∧
      jsonK.Made disk jsonCall ∧ (jsonCall.run disk).code = Completion.success ∧
      (jsonCall.run disk).stdout =
        "\x7b\"code\":-3,\"outcome\":\"no_change\",\"sample\":0,\"slot\":null," ++
          "\"value\":100.0\x7d\n" ++
        "\x7b\"code\":-3,\"outcome\":\"no_change\",\"sample\":1,\"slot\":null," ++
          "\"value\":100.0\x7d\n" ++
        "\x7b\"code\":-3,\"outcome\":\"no_change\",\"sample\":2,\"slot\":null," ++
          "\"value\":100.0\x7d\n" ++
        "\x7b\"code\":1,\"outcome\":\"object\",\"sample\":3,\"slot\":1," ++
          "\"value\":100.0\x7d\n" ++
        "\x7b\"code\":-1,\"outcome\":\"no_object\",\"sample\":4,\"slot\":null," ++
          "\"value\":0.0\x7d\n" ++
        "\x7b\"summary\":\x7b\"confirmations\":[0,1,0,0],\"no_match\":0,\"no_object\":1," ++
          "\"samples\":5\x7d\x7d\n" := by
  intro config record file disk text call k jsonCall jsonK
  have hmade : k.Made disk call :=
    ⟨by decide +kernel, rfl, by decide +kernel, rfl, by decide +kernel, rfl⟩
  have hjsonMade : jsonK.Made disk jsonCall :=
    ⟨by decide +kernel, rfl, by decide +kernel, rfl, by decide +kernel, rfl⟩
  have hparse : Readings.parse text =
      .ok [⟨0x42c80000⟩, ⟨0x42c80000⟩, ⟨0x42c80000⟩, ⟨0x42c80000⟩, ⟨0⟩] := by decide +kernel
  have hpath : (Session.locateStore (Path.parent "c") config).store.path = "s" := by decide +kernel
  have hheld : disk.Holds "s" (some file) := rfl
  rcases prints_transcript hmade with ⟨-, hprints⟩
  rcases prints_transcript hjsonMade with ⟨-, hjsonPrints⟩
  rcases hprints _ _ hparse (hpath ▸ hheld) with ⟨hrun, -⟩
  rcases hjsonPrints _ _ hparse (hpath ▸ hheld) with ⟨hjsonRun, -⟩
  rw [hrun, hjsonRun]
  refine ⟨hmade, rfl, ?_, hjsonMade, rfl, ?_⟩
  · decide +kernel
  · decide +kernel

end Classifying

end SmartScale
