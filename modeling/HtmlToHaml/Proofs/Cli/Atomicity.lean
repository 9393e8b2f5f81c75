import HtmlToHaml.Cli.Session
import HtmlToHaml.Proofs.Cli.Files

/-!
# All or nothing

A run reads its source, comes to its text and delivers it, in this order, and only the delivery
changes anything but the messages. So a run that fails before has changed nothing, and a run
that succeeds has delivered the whole text that its source, as it was before the run, becomes,
and nothing else.
-/

namespace HtmlToHaml.Cli

namespace Settings

/-- The name of the source. -/
def inputName (settings : Settings) : String :=
  settings.input.getD "-"

/-- The name of what is written. -/
def outputName (settings : Settings) : String :=
  settings.output.getD "-"

/-- The text that flags and a source ask for: the tree in JSON and a line feed, or Haml. Parentheses
win over keyword keys. -/
def wanted (settings : Settings) (bytes : List UInt8) : Except Failure (List Char) :=
  let options : Options :=
    { erb := settings.has .erb
      xhtml := settings.has .xhtml
      style := if settings.has .htmlAttributes then .html
        else if settings.has .ruby19Attributes then .ruby19 else .symbol
      maxDepth := 512 }
  if settings.has .dumpTree then do
    let source ← Encoding.decode bytes
    let store ← (Markup.parse source options).1
    let snapshot ← store.snapshot options.maxDepth
    pure (snapshot.toJson.pretty ++ ['\n'])
  else convertBytes bytes options

/-- The flags set the options. -/
theorem options_eq (settings : Settings) : settings.options =
    { erb := settings.has .erb
      xhtml := settings.has .xhtml
      style := if settings.has .htmlAttributes then .html
        else if settings.has .ruby19Attributes then .ruby19 else .symbol
      maxDepth := 512 } := by
  rw [options]
  cases settings.has .htmlAttributes <;> cases settings.has .ruby19Attributes <;> rfl

/-- The text that a source becomes is the one that is asked for. -/
theorem convert_fst (settings : Settings) (bytes : List UInt8) :
    (settings.convert bytes).1 = settings.wanted bytes := by
  rw [convert, wanted, ← options_eq]
  dsimp only
  split
  · cases Encoding.decode bytes with
    | error failure => rfl
    | ok source => rfl
  · rfl

end Settings

namespace World

/-- The place with more lines of messages. -/
def tell (world : World) (lines : List String) : World :=
  { world with stderr := world.stderr ++ lines }

/-- What reading the source comes to. -/
def source (world : World) (settings : Settings) : Except FileFault (List UInt8) :=
  if settings.inputName = "-" then world.readStdin else world.readFile settings.inputName

/-- What delivering a text comes to, and the place afterwards. -/
def deliver (world : World) (settings : Settings) (text : List Char) :
    Except FileFault Unit × World :=
  if settings.outputName = "-" then world.print text else world.writeFile settings.outputName text

end World

variable {world : World} {settings : Settings} {arguments : List String}

section Runs

/-- A step of a run goes on where the one before it ended. -/
theorem run_bind {α β : Type} (step : StateM World α) (f : α → StateM World β) (world : World) :
    (step >>= f).run world = (f (step.run world).1).run (step.run world).2 :=
  rfl

/-- Lines of messages change nothing else. -/
theorem forM_report_run (lines : List String) (world : World) :
    (lines.forM World.host.report).run world = ((), world.tell lines) := by
  induction lines generalizing world with
  | nil =>
    rw [World.tell, List.append_nil]
    rfl
  | cons line lines ih =>
    rw [List.forM, run_bind]
    refine (ih (world.tell [line])).trans ?_
    rw [World.tell, World.tell, World.tell, List.append_assoc, List.singleton_append]

/-- A failure is one more line of messages. -/
theorem fail_run (code : UInt32) (message : String) (world : World) :
    (fail World.host code message).run world = (code, world.tell ["error: " ++ message]) :=
  rfl

/-- Reading the source changes nothing. -/
theorem readSource_run (world : World) (settings : Settings) :
    (readSource World.host settings.inputName).run world =
      ((world.source settings).mapError fun fault => settings.inputName ++ ": " ++ fault.message,
        world) := by
  rw [readSource, World.source]
  split <;> rfl

/-- Writing the text is delivering it. -/
theorem writeText_run (world : World) (settings : Settings) (text : List Char) :
    (writeText World.host settings.outputName text).run world =
      ((world.deliver settings text).1.mapError FileFault.message,
        (world.deliver settings text).2) := by
  rw [writeText, World.deliver]
  split <;> rfl

/-- What a run does, step by step. -/
theorem convertAll_run (world : World) (settings : Settings) :
    (convertAll World.host settings).run world =
      match world.source settings with
      | .error fault => (1, world.tell ["error: " ++ (settings.inputName ++ ": " ++ fault.message)])
      | .ok bytes =>
        let world := world.tell (settings.logLines (settings.convert bytes).2)
        match settings.wanted bytes with
        | .error failure => (1, world.tell ["error: " ++ failure.message])
        | .ok text =>
          match world.deliver settings text with
          | (.ok (), world) => (0, world)
          | (.error fault, world) => (1, world.tell ["error: " ++ fault.message]) := by
  have hread := readSource_run world settings
  rw [Settings.inputName] at hread
  rw [convertAll, run_bind, hread]
  cases hs : world.source settings with
  | error fault => exact fail_run 1 _ world
  | ok bytes =>
    have hlog := forM_report_run (settings.logLines (settings.convert bytes).2) world
    have htext := settings.convert_fst bytes
    dsimp only [Except.mapError]
    rw [run_bind, hlog, htext]
    cases settings.wanted bytes with
    | error failure => exact fail_run 1 _ _
    | ok text =>
      have hwrite := writeText_run (world.tell (settings.logLines (settings.convert bytes).2))
        settings text
      rw [Settings.outputName] at hwrite
      dsimp only
      rw [run_bind, hwrite]
      rcases (world.tell (settings.logLines (settings.convert bytes).2)).deliver settings text with
        ⟨fault | ⟨⟩, after⟩ <;> rfl

/-- A run with arguments that are accepted. -/
theorem run_eq (h : Settings.ofArguments arguments = .ok settings) :
    world.run arguments = (convertAll World.host settings).run world := by
  rw [World.run, run, h]

end Runs

section Outcomes

variable {after : World} {text : List Char} {lines : List String}

/-- A run that cannot read its source, come to its text or open the file to write. -/
inductive Fails (world : World) (settings : Settings) : Prop where
  /-- The source cannot be read. -/
  | reading {fault : FileFault} (h : world.source settings = .error fault)
  /-- The source does not become a text. -/
  | converting {bytes : List UInt8} {failure : Failure} (hs : world.source settings = .ok bytes)
    (h : settings.wanted bytes = .error failure)
  /-- The file to write is not there and cannot be made. -/
  | opening {fault : FileFault} (hout : settings.outputName ≠ "-")
    (h : world.files.target world.conditions settings.outputName = .error fault)

/-- A text is in its place, and nothing else has changed but the messages. -/
inductive Delivered (world after : World) (output : String) (text : List Char) : Prop where
  /-- The text has been printed. -/
  | printed (hout : output = "-") (hstdout : after.stdout = world.stdout ++ text)
    (hfiles : after.files = world.files)
  /-- The text has been written: it is in the file of the name, where it is read if it
  may be read. -/
  | written {path : Path} (hout : output ≠ "-") (hstdout : after.stdout = world.stdout)
    (htarget : world.files.target world.conditions output = .ok path)
    (hcontent : after.files.content? world.conditions path =
      some (String.ofList text).toUTF8.toList)
    (hothers : ∀ other, other ≠ path →
      after.files.content? world.conditions other = world.files.content? world.conditions other)
    (hread : world.conditions.unreadable path = none →
      after.readFile output = .ok (String.ofList text).toUTF8.toList)

/-- More lines of messages are put behind those before them. -/
theorem tell_tell (lines more : List String) :
    (world.tell lines).tell more = world.tell (lines ++ more) := by
  rw [World.tell, World.tell, World.tell, List.append_assoc]

/-- Messages have no part in a delivery. -/
theorem deliver_tell : (world.tell lines).deliver settings text =
    ((world.deliver settings text).1, (world.deliver settings text).2.tell lines) := by
  have htarget : (world.tell lines).files.target (world.tell lines).conditions settings.outputName =
      world.files.target world.conditions settings.outputName := rfl
  rw [World.deliver, World.deliver]
  split
  · rfl
  · rw [World.writeFile, World.writeFile, htarget]
    cases world.files.target world.conditions settings.outputName <;> rfl

/-- A run ends early with a message, or it delivers its text. -/
theorem run_outcome (world : World) (h : Settings.ofArguments arguments = .ok settings) :
    (∃ lines, world.run arguments = (1, world.tell lines) ∧
      ∀ bytes text, world.source settings = .ok bytes → settings.wanted bytes ≠ .ok text) ∨
    ∃ bytes text lines, world.source settings = .ok bytes ∧ settings.wanted bytes = .ok text ∧
      world.run arguments = (if (world.deliver settings text).1 = .ok () then 0 else 1,
        (world.deliver settings text).2.tell lines) := by
  rw [run_eq h, convertAll_run]
  cases hs : world.source settings with
  | error fault => exact Or.inl ⟨_, rfl, nofun⟩
  | ok bytes =>
    dsimp only
    cases hw : settings.wanted bytes with
    | error failure =>
      refine Or.inl ⟨_, congrArg (Prod.mk 1) (tell_tell _ _), fun other text hother => ?_⟩
      cases hother
      rw [hw]
      exact nofun
    | ok text =>
      refine Or.inr ⟨bytes, text, ?_⟩
      dsimp only
      rw [deliver_tell]
      rcases world.deliver settings text with ⟨fault | ⟨⟩, after⟩
      · exact ⟨_, rfl, hw, congrArg (Prod.mk 1) (tell_tell _ _)⟩
      · exact ⟨_, rfl, hw, rfl⟩

/-- What is not broken off is whole. -/
theorem cutOff_eq_ok {α : Type} {limit : Option (Nat × FileFault)} {content : List α}
    (h : (cutOff limit content).2 = .ok ()) : (cutOff limit content).1 = content := by
  cases limit with
  | none => rfl
  | some limit =>
    obtain ⟨room, fault⟩ := limit
    rw [cutOff] at h ⊢
    split
    · rfl
    · rename_i hlong
      rw [if_neg hlong] at h
      cases h

/-- A delivery that is not broken off has put the whole text in its place. -/
theorem delivered_of_deliver (h : (world.deliver settings text).1 = .ok ()) :
    Delivered world ((world.deliver settings text).2.tell lines) settings.outputName text := by
  rw [World.deliver] at h ⊢
  split
  · rename_i hout
    rw [if_pos hout] at h
    exact .printed hout (congrArg (world.stdout ++ ·) (cutOff_eq_ok h)) rfl
  · rename_i hout
    rw [if_neg hout, World.writeFile] at h
    rw [World.writeFile]
    cases ht : world.files.target world.conditions settings.outputName with
    | error fault =>
      rw [ht] at h
      cases h
    | ok path =>
      rw [ht] at h
      have hpath := Files.ne_nil_of_target ht
      have hwhole := cutOff_eq_ok h
      refine .written hout rfl ht ?_ (fun other hne => ?_) fun hread => ?_
      · change (world.files.put world.conditions path _).content? world.conditions path = _
        rw [hwhole, Files.content?_put hpath, if_pos rfl]
      · change (world.files.put world.conditions path _).content? world.conditions other = _
        rw [Files.content?_put hpath, if_neg hne]
      · change (world.files.put world.conditions path _).readUnder world.conditions
          settings.outputName = _
        rw [hwhole, Files.readUnder_put ht hread]

/-- Where the file to write cannot be opened, nothing is delivered. -/
theorem deliver_of_target_eq_error {fault : FileFault} (hout : settings.outputName ≠ "-")
    (h : world.files.target world.conditions settings.outputName = .error fault) :
    world.deliver settings text = (.error fault, world) := by
  rw [World.deliver, if_neg hout, World.writeFile, h]

/-- **A run does all that it is asked for, or nothing.** Its exit code is zero or one. If it cannot
read its source, come to its text or open the file to write, the code is one, and nothing is
printed and no file is changed. The code is zero exactly if the source becomes a text that is
delivered; then the text of the source, as the source was before the run, is in its place, and
nothing else has changed. -/
theorem run_atomic (world : World) (h : Settings.ofArguments arguments = .ok settings) :
    ((world.run arguments).1 = 0 ∨ (world.run arguments).1 = 1) ∧
      (Fails world settings → (world.run arguments).1 = 1 ∧
        (world.run arguments).2.stdout = world.stdout ∧
        (world.run arguments).2.files = world.files) ∧
      ((world.run arguments).1 = 0 ↔ ∃ bytes text, world.source settings = .ok bytes ∧
        settings.wanted bytes = .ok text ∧ (world.deliver settings text).1 = .ok ()) ∧
      ((world.run arguments).1 = 0 → ∃ bytes text, world.source settings = .ok bytes ∧
        settings.wanted bytes = .ok text ∧
          Delivered world (world.run arguments).2 settings.outputName text) := by
  rcases run_outcome world h with ⟨lines, hrun, hnone⟩ | ⟨bytes, text, lines, hs, hw, hrun⟩
  · rw [hrun]
    refine ⟨Or.inr rfl, fun _ => ⟨rfl, rfl, rfl⟩, ⟨nofun, ?_⟩, nofun⟩
    rintro ⟨bytes, text, hs, hw, -⟩
    exact absurd hw (hnone bytes text hs)
  · rw [hrun]
    have hcode : (if (world.deliver settings text).1 = .ok () then (0 : UInt32) else 1) = 0 ↔
        (world.deliver settings text).1 = .ok () := by
      split
      · exact iff_of_true rfl ‹_›
      · exact iff_of_false nofun ‹_›
    refine ⟨?_, fun hfails => ?_, ?_, fun hzero => ?_⟩
    · exact ite_eq_or_eq _ _ _
    · cases hfails with
      | reading hr => cases hs.symm.trans hr
      | converting hs' hw' =>
        cases hs.symm.trans hs'
        cases hw.symm.trans hw'
      | opening hout ht =>
        rw [deliver_of_target_eq_error hout ht, if_neg nofun]
        exact ⟨rfl, rfl, rfl⟩
    · refine hcode.trans ⟨fun hd => ⟨bytes, text, hs, hw, hd⟩, ?_⟩
      rintro ⟨bytes', text', hs', hw', hd⟩
      cases hs.symm.trans hs'
      cases hw.symm.trans hw'
      exact hd
    · exact ⟨bytes, text, hs, hw, delivered_of_deliver (hcode.1 hzero)⟩

/-- A place with a file in the working directory and one in a directory beside it. -/
def paragraphPlace : World :=
  { files := [("a", "<p>hi</p>".toUTF8.toList), ("/site/b", [])] }

/-- A file that is its own output, under a name from the root and one that leads out of the working
directory and back, is read before it is written. -/
theorem run_atomic_overInput :
    Settings.ofArguments ["/work/a", "../site/../work/a"] =
        .ok { input := some "/work/a", output := some "../site/../work/a" } ∧
      (paragraphPlace.run ["/work/a", "../site/../work/a"]).1 = 0 ∧
      (paragraphPlace.run ["/work/a", "../site/../work/a"]).2.stdout = [] ∧
      (paragraphPlace.run ["/work/a", "../site/../work/a"]).2.readFile "../site/../work/a" =
        .ok "%p hi\n".toUTF8.toList := by
  have hs : Settings.ofArguments ["/work/a", "../site/../work/a"] =
      .ok { input := some "/work/a", output := some "../site/../work/a" } := by decide +kernel
  have hsource : paragraphPlace.source
      { input := some "/work/a", output := some "../site/../work/a" } =
        .ok "<p>hi</p>".toUTF8.toList := by decide +kernel
  have hwanted : Settings.wanted { input := some "/work/a", output := some "../site/../work/a" }
      "<p>hi</p>".toUTF8.toList = .ok "%p hi\n".toList := by decide +kernel
  obtain ⟨-, -, hzero, hdelivered⟩ := run_atomic paragraphPlace hs
  have hcode := hzero.2 ⟨_, _, hsource, hwanted, by decide +kernel⟩
  obtain ⟨bytes, text, hs', hw', hd⟩ := hdelivered hcode
  cases hsource.symm.trans hs'
  cases hwanted.symm.trans hw'
  cases hd with
  | printed hout => exact absurd hout (by decide)
  | written _ hstdout _ _ _ hread => exact ⟨hs, hcode, hstdout, hread rfl⟩

end Outcomes

end HtmlToHaml.Cli
