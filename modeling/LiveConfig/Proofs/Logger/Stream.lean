import LiveConfig.Proofs.FileTree.Sound
import LiveConfig.Proofs.Json.OneLine
import LiveConfig.Proofs.Logger.Live
/-!
The stream of records of a container of loggers.

What a call sends is read off the config in force: its level lets the record through or not, and its
output is where the record goes. Every file and every stream takes the lines that were sent to it,
in the order of the calls, and nothing else. A line is one line whatever is in it.
-/

set_option autoImplicit false

namespace LiveConfig

/-! ### Files that are opened and appended to -/

namespace FileTree

variable {t t' u : FileTree} {path : String} {node : Node} {id : Nat}

theorem Extends.trans (h : t.Extends t') (h' : t'.Extends u) : t.Extends u :=
  ⟨h'.cwd.trans h.cwd, fun name node hnode => h'.names name node (h.names name node hnode)⟩

theorem content_freshId (t : FileTree) : t.content t.freshId = .empty := by
  have hfree : t.contents.lookup t.freshId = none := by
    refine List.lookup_eq_none_iff.mpr fun e he => ?_
    have hlt := lt_freshId (List.mem_map_of_mem he)
    simpa using Nat.ne_of_gt hlt
  rw [content, hfree]
  rfl

theorem content_openForWriting (h : t.openForWriting path = .ok (node, t')) (id : Nat) :
    t'.content id = t.content id := by
  rcases openForWriting_cases h with ⟨rfl, -⟩ | ⟨parent, last, -, -, -, rfl⟩
  · rfl
  · rw [content_bind, content_setContent]
    by_cases hid : id = t.freshId
    · rw [if_pos hid, hid, content_freshId]
    · rw [if_neg hid]

theorem Opens.read (h : Opens t path (.file id)) : t.read path = .ok (t.content id) := by
  obtain ⟨⟨parent, last, hlocate, hlookup⟩, -⟩ := h
  simp [FileTree.read, find, hlocate, hlookup, Bind.bind, Except.bind]

end FileTree

namespace Logger

/-! ### What outputs take -/

/-- A record on its way to an output. -/
structure Sending where
  output : Output
  record : Record

def Output.keeps : Output → Bool
  | .stdout | .stderr | .file (.file _) => true
  | .file _ | .closed => false

def textFor (output : Output) (l : List Sending) : String :=
  String.join ((l.filter (·.output = output)).map (·.record.line))

theorem textFor_append (output : Output) (l m : List Sending) :
    textFor output (l ++ m) = textFor output l ++ textFor output m := by
  rw [textFor, List.filter_append, List.map_append, String.join_append]
  rfl

theorem textFor_single (output : Output) (e : Sending) :
    textFor output [e] = if e.output = output then e.record.line else "" := by
  by_cases h : e.output = output <;> simp [textFor, h]

/-- Every file and every stream has taken the lines for it, and no name has changed. -/
structure Outside.Takes (o : Outside) (l : List Sending) (o' : Outside) : Prop where
  files : o.files.Extends o'.files
  contents : ∀ id,
    o'.files.content id = o.files.content id ++ (textFor (.file (.file id)) l).toUTF8
  stdout : o'.stdout = o.stdout ++ textFor .stdout l
  stderr : o'.stderr = o.stderr ++ textFor .stderr l

namespace Outside

variable {o o' : Outside} {l : List Sending}

theorem takes_nothing (files : o.files.Extends o'.files)
    (contents : ∀ id, o'.files.content id = o.files.content id) (stdout : o'.stdout = o.stdout)
    (stderr : o'.stderr = o.stderr) : o.Takes [] o' where
  files := files
  contents := fun id => by
    rw [contents id]
    exact (ByteArray.append_empty).symm
  stdout := by
    rw [stdout]
    exact (String.append_empty).symm
  stderr := by
    rw [stderr]
    exact (String.append_empty).symm

theorem takes_self (o : Outside) : o.Takes [] o :=
  takes_nothing (.refl _) (fun _ => rfl) rfl rfl

theorem Takes.trans {o'' : Outside} {m : List Sending} (h : o.Takes l o') (h' : o'.Takes m o'') :
    o.Takes (l ++ m) o'' where
  files := h.files.trans h'.files
  contents := fun id => by
    rw [h'.contents, h.contents, textFor_append, ByteArray.append_assoc]
    simp only [String.toUTF8_eq_toByteArray, String.toByteArray_append]
  stdout := by rw [h'.stdout, h.stdout, textFor_append, String.append_assoc]
  stderr := by rw [h'.stderr, h.stderr, textFor_append, String.append_assoc]

theorem takes_open {name : String} {output : Output} (h : o.open name = .ok (output, o')) :
    o.Takes [] o' := by
  rcases Outside.open_cases name with ⟨stream, hstream⟩ | hpath
  · rw [hstream, Except.ok.injEq, Prod.mk.injEq] at h
    rw [← h.2]
    exact takes_self o
  · obtain ⟨node, files, hfound, -, rfl⟩ := (hpath _ _ _).mp h
    exact takes_nothing (FileTree.openForWriting_extends hfound)
      (FileTree.content_openForWriting hfound) rfl rfl

theorem takes_lost {output : Output} (h : output.keeps = false) (r : Record) :
    o.Takes [⟨output, r⟩] o := by
  have hnone : ∀ other : Output, other.keeps = true → textFor other [⟨output, r⟩] = "" := by
    intro other hother
    rw [textFor_single, if_neg]
    rintro rfl
    rw [h] at hother
    exact absurd hother Bool.false_ne_true
  refine ⟨.refl _, fun id => ?_, ?_, ?_⟩
  · rw [hnone _ rfl]
    exact ByteArray.append_empty.symm
  · rw [hnone _ rfl, String.append_empty]
  · rw [hnone _ rfl, String.append_empty]

theorem takes_write {output : Output} {r : Record} (h : o.write r.line output = .ok o') :
    o.Takes [⟨output, r⟩] o' := by
  cases output with
  | stdout =>
      obtain rfl := Except.ok.inj h
      exact ⟨.refl _, fun _ => ByteArray.append_empty.symm,
        by rw [textFor_single, if_pos rfl], String.append_empty.symm⟩
  | stderr =>
      obtain rfl := Except.ok.inj h
      exact ⟨.refl _, fun _ => ByteArray.append_empty.symm, String.append_empty.symm,
        by rw [textFor_single, if_pos rfl]⟩
  | closed =>
      obtain rfl := Except.ok.inj h
      exact takes_lost rfl r
  | file node =>
      cases node with
      | directory => simp [Outside.write, FileTree.append, Bind.bind, Except.bind] at h
      | sink =>
          obtain rfl := Except.ok.inj h
          exact takes_lost rfl r
      | full =>
          have hsame : o' = o := by
            cases hempty : r.line.toUTF8.isEmpty with
            | true =>
                simp only [Outside.write, FileTree.append, hempty, if_true, Bind.bind, Except.bind,
                  Except.ok.injEq] at h
                exact h.symm
            | false =>
                simp only [Outside.write, FileTree.append, hempty, Bool.false_eq_true, if_false,
                  Bind.bind, Except.bind] at h
                cases h
          rw [hsame]
          exact takes_lost rfl r
      | file n =>
          obtain rfl := Except.ok.inj h
          refine ⟨FileTree.extends_setContent _ _ _, fun id => ?_, String.append_empty.symm,
            String.append_empty.symm⟩
          rw [FileTree.content_setContent, textFor_single]
          by_cases hid : id = n
          · rw [hid, if_pos rfl, if_pos rfl]
          · have hne : Output.file (.file n) ≠ .file (.file id) := fun heq => by
              cases heq
              exact hid rfl
            rw [if_neg hid, if_neg hne]
            exact ByteArray.append_empty.symm

theorem takes_unwritten {output : Output} {r : Record} {fault : FileFault}
    (h : o.write r.line output = .error fault) : o.Takes [⟨output, r⟩] o := by
  cases output with
  | stdout | stderr | closed => cases h
  | file node =>
      cases node with
      | file n | sink => cases h
      | directory | full => exact takes_lost rfl r

end Outside

namespace Serving

variable {σ : Type} {part : Focus σ Outside}

/-! ### Calls -/

/-- What is done with a container of loggers, and the time that passes. -/
inductive Act where
  | log (severity : Severity) (message : String) (fields : Json)
  | update (fetched : Outcome String Config)
  | lease
  | giveBack (generation : Nat)
  | close
  | wait (time : String)

/-- A container of loggers with its world. -/
structure Live (σ : Type) where
  container : Serving
  world : σ

namespace Live

variable (part)

def act (s : Live σ) : Act → Live σ
  | .log severity message fields =>
      match s.container.log severity message fields (part.get s.world) with
      | .ok (o, _) => { s with world := part.set o s.world }
      | .error _ => s
  | .update fetched =>
      let t := Container.update (answering part fetched) s.container s.world
      ⟨t.container, t.world⟩
  | .lease =>
      match s.container.lease? with
      | .ok (_, container) => { s with container }
      | .error _ => s
  | .giveBack generation =>
      let t := Container.giveBack (answering part (.ok s.container.config)) s.container generation
        s.world
      ⟨t.container, t.world⟩
  | .close =>
      let t := Container.close (answering part (.ok s.container.config)) s.container s.world
      ⟨t.container, t.world⟩
  | .wait time => { s with world := part.set { part.get s.world with time } s.world }

def after (s : Live σ) (acts : List Act) : Live σ := acts.foldl (act part) s

/-- The record that a call sends: if the container is open and the level that the config in force
names lets the severity pass, one goes to the output that the config names. -/
def sends (s : Live σ) : Act → List Sending
  | .log severity message fields =>
      match s.container.isClosed, readLevel s.container.config.level,
        (part.get s.world).open s.container.config.output with
      | false, .ok level, .ok (output, _) =>
          if level.passes severity then
            [⟨output, ⟨(part.get s.world).time, severity.name, message, fields⟩⟩]
          else []
      | _, _, _ => []
  | .update _ | .lease | .giveBack _ | .close | .wait _ => []

def sent (s : Live σ) : List Act → List Sending
  | [] => []
  | a :: rest => s.sends part a ++ sent (s.act part a) rest

variable {part} {s : Live σ}

theorem sends_log (h : AsMade part s.container s.world) (hopen : s.container.isClosed = false)
    (severity : Severity) (message : String) (fields : Json) :
    s.sends part (.log severity message fields) =
      if s.container.current.object.enabled severity then
        [⟨s.container.current.object.output,
          ⟨(part.get s.world).time, severity.name, message, fields⟩⟩]
      else [] := by
  obtain ⟨hlevel, houtput⟩ := make_eq_ok_iff.mp (h.made_of_open hopen)
  simp only [sends, hopen, hlevel, houtput]
  rfl

theorem sends_closed (hclosed : s.container.isClosed = true) (a : Act) : s.sends part a = [] := by
  cases a with
  | log severity message fields => simp only [sends, hclosed]
  | update fetched | lease | giveBack generation | close | wait time => rfl

theorem log_closed (hclosed : s.container.isClosed = true) (severity : Severity)
    (message : String) (fields : Json) (o : Outside) :
    s.container.log severity message fields o = .error ⟨s.container.leasePanic .closed⟩ := by
  simp only [Serving.log, Serving.write, Container.lease?_of_closed hclosed]

variable (part) in
theorem giveBack_quiet (fetched : Outcome String Config) (c : Serving) (generation : Nat) (w : σ) :
    let t := Container.giveBack (answering part fetched) c generation w
    t.world = w ∧ t.container.isClosed = c.isClosed := by
  intro t
  by_cases hg : c.generation = generation
  · by_cases hlast : c.phase = .draining ∧ c.unleased.leases = 0
    · have ht : Container.giveBack (answering part fetched) c generation w = _ :=
        Container.giveBack_last hg hlast.1 hlast.2
      simp only [t, ht]
      refine ⟨rfl, ?_⟩
      simp only [Container.isClosed, hlast.1]
      rfl
    · have ht : Container.giveBack (answering part fetched) c generation w = _ :=
        Container.giveBack_current hg hlast
      simp only [t, ht, true_and]
      rfl
  · obtain ⟨w', closings, hstep, hworld⟩ :=
      Container.giveBack_superseded (answering part fetched) w hg
    have hsame : w' = w := by
      rcases hworld with hsame | ⟨_, hsame⟩ <;> exact hsame
    simp only [t, hstep]
    exact ⟨hsame, rfl⟩

theorem world_close (fetched : Outcome String Config) (c : Serving) (w : σ) :
    (Container.close (answering part fetched) c w).world = w := by
  cases hclosed : c.isClosed with
  | true => rw [Container.close_of_closed hclosed]
  | false =>
      by_cases hidle : c.leases = 0
      · rw [Container.close_of_idle hclosed hidle]
        rfl
      · rw [Container.close_of_leased hclosed hidle]

/-- An update opens outputs and writes nothing. -/
theorem takes_update (lawful : part.Lawful) (h : AsMade part s.container s.world)
    (fetched : Outcome String Config) :
    (part.get s.world).Takes [] (part.get (s.act part (.update fetched)).world) := by
  change (part.get s.world).Takes []
    (part.get (Container.update (answering part fetched) s.container s.world).world)
  cases hclosed : s.container.isClosed with
  | true =>
      simp only [Container.update, hclosed, if_true]
      exact Outside.takes_self _
  | false =>
      -- only a config that is taken in opens anything
      have hmade := h.made_of_open hclosed
      rcases fetched.failed_or_ok with ⟨f, rfl⟩ | ⟨new, rfl⟩
      · rw [update_of_failed hclosed]
        exact Outside.takes_self _
      by_cases hnew : s.container.config = new
      · subst hnew
        rw [update_of_same hclosed]
        exact Outside.takes_self _
      rcases hmake : make new (part.get s.world) with e | ⟨l, o⟩
      · rw [update_of_not_made hclosed hmade hmake]
        exact Outside.takes_self _
      · rw [update_of_made hclosed hmade hnew hmake, lawful.get_set]
        exact Outside.takes_open (make_eq_ok_iff.mp hmake).2

theorem act_of_filtered (lawful : part.Lawful) (h : AsMade part s.container s.world)
    {severity : Severity} {message : String} {fields : Json}
    (hnone : s.sends part (.log severity message fields) = []) :
    (s.act part (.log severity message fields)).container = s.container ∧
      part.get (s.act part (.log severity message fields)).world = part.get s.world := by
  cases hclosed : s.container.isClosed with
  | true =>
      simp only [act, log_closed hclosed, and_self]
  | false =>
      have hstopped : s.container.current.object.enabled severity = false := by
        rw [sends_log h hclosed] at hnone
        cases hpasses : s.container.current.object.enabled severity with
        | false => rfl
        | true =>
            rw [hpasses, if_pos rfl] at hnone
            exact absurd hnone (List.cons_ne_nil _ _)
      simp only [act, Serving.log, Serving.write, Container.lease?_of_open hclosed, Logger.write,
        hstopped, Bool.false_eq_true, if_false, true_and]
      exact lawful.get_set _ _

theorem takes_log (lawful : part.Lawful) (h : AsMade part s.container s.world)
    (severity : Severity) (message : String) (fields : Json) :
    (part.get s.world).Takes (s.sends part (.log severity message fields))
      (part.get (s.act part (.log severity message fields)).world) := by
  by_cases hnone : s.sends part (.log severity message fields) = []
  · rw [hnone, (act_of_filtered lawful h hnone).2]
    exact Outside.takes_self _
  have hopen : s.container.isClosed = false := by
    cases hclosed : s.container.isClosed with
    | false => rfl
    | true => exact absurd (sends_closed hclosed _) hnone
  rw [sends_log h hopen] at hnone ⊢
  have hpasses : s.container.current.object.enabled severity = true := by
    by_contra hstopped
    exact hnone (if_neg hstopped)
  rw [if_pos hpasses]
  simp only [act, Serving.log, Serving.write, Container.lease?_of_open hopen, Logger.write,
    hpasses, if_true]
  cases hwrite : (part.get s.world).write
    (Record.line ⟨(part.get s.world).time, severity.name, message, fields⟩)
      s.container.current.object.output with
  | ok o =>
      rw [lawful.get_set]
      exact Outside.takes_write hwrite
  | error fault =>
      rw [lawful.get_set]
      exact Outside.takes_unwritten hwrite

theorem takes_act (lawful : part.Lawful) (h : AsMade part s.container s.world) (a : Act) :
    (part.get s.world).Takes (s.sends part a) (part.get (s.act part a).world) := by
  cases a with
  | log severity message fields => exact takes_log lawful h severity message fields
  | update fetched => exact takes_update lawful h fetched
  | lease =>
      simp only [act]
      split <;> exact Outside.takes_self _
  | giveBack generation =>
      simp only [act, (giveBack_quiet part _ s.container generation s.world).1]
      exact Outside.takes_self _
  | close =>
      simp only [act, world_close]
      exact Outside.takes_self _
  | wait time =>
      simp only [act, lawful.get_set]
      exact Outside.takes_nothing (.refl _) (fun _ => rfl) rfl rfl

/-- Nothing that is done takes a logger out of those that are reached. -/
theorem reached_act (lawful : part.Lawful) (h : Reached part s.container s.world) (a : Act) :
    Reached part (s.act part a).container (s.act part a).world := by
  -- a call and the clock leave every name, so they are what may happen elsewhere
  have hopens : ∀ {w : σ}, (part.get s.world).files.Extends (part.get w).files →
      Reached part s.container w := fun hfiles =>
    h.elsewhere (Outside.leaves_of_extends hfiles _)
  cases a with
  | log severity message fields =>
      have htakes := takes_log lawful (h.asMade lawful) severity message fields
      have hcontainer : (s.act part (.log severity message fields)).container = s.container := by
        simp only [act]
        split <;> rfl
      rw [hcontainer]
      exact hopens htakes.files
  | update fetched => exact h.updated fetched
  | lease =>
      cases hclosed : s.container.isClosed with
      | true =>
          simp only [act, Container.lease?_of_closed hclosed]
          exact h
      | false =>
          have hlease := Container.lease?_of_open hclosed
          simp only [act, hlease]
          exact h.leased hlease
  | giveBack generation => exact h.returned _ generation
  | close => exact h.closed _
  | wait time =>
      have hget := lawful.get_set { part.get s.world with time } s.world
      refine hopens ?_
      simp only [act, hget]
      exact .refl _

theorem phase_act (hover : s.container.phase = .closed) (a : Act) :
    (s.act part a).container.phase = .closed := by
  have hclosed : s.container.isClosed = true := by simp [Container.isClosed, hover]
  cases a with
  | log severity message fields =>
      simp only [act, log_closed hclosed]
      exact hover
  | update fetched =>
      simp only [act, Container.update, hclosed, if_true]
      exact hover
  | lease =>
      simp only [act, Container.lease?_of_closed hclosed]
      exact hover
  | giveBack generation =>
      have hdrained : ¬(s.container.phase = .draining ∧ s.container.unleased.leases = 0) := by
        rw [hover]
        exact fun hboth => by cases hboth.1
      simp only [act]
      by_cases hg : s.container.generation = generation
      · rw [Container.giveBack_current hg hdrained]
        exact hover
      · obtain ⟨w', closings, hstep, -⟩ := Container.giveBack_superseded
          (answering part (.ok s.container.config)) s.world hg
        rw [hstep]
        exact hover
  | close =>
      simp only [act, Container.close_of_closed hclosed]
      exact hover
  | wait time => exact hover

theorem isClosed_act (hclosed : s.container.isClosed = true) (a : Act) :
    (s.act part a).container.isClosed = true := by
  cases a with
  | log severity message fields =>
      simp only [act, log_closed hclosed]
      exact hclosed
  | update fetched =>
      simp only [act, Container.update, hclosed, if_true]
  | lease =>
      simp only [act, Container.lease?_of_closed hclosed]
      exact hclosed
  | giveBack generation =>
      exact (giveBack_quiet part _ s.container generation s.world).2.trans hclosed
  | close =>
      simp only [act, Container.close_of_closed hclosed]
      exact hclosed
  | wait time => exact hclosed

/-! ### Runs -/

theorem reached_after (lawful : part.Lawful) (h : Reached part s.container s.world)
    (acts : List Act) : Reached part (s.after part acts).container (s.after part acts).world := by
  induction acts generalizing s with
  | nil => exact h
  | cons a rest ih => exact ih (reached_act lawful h a)

theorem takes_after (lawful : part.Lawful) (h : Reached part s.container s.world)
    (acts : List Act) :
    (part.get s.world).Takes (s.sent part acts) (part.get (s.after part acts).world) := by
  induction acts generalizing s with
  | nil => exact Outside.takes_self _
  | cons a rest ih =>
      have hfirst := takes_act lawful (h.asMade lawful) a
      exact hfirst.trans (ih (reached_act lawful h a))

theorem isClosed_after (hclosed : s.container.isClosed = true) (acts : List Act) :
    (s.after part acts).container.isClosed = true := by
  induction acts generalizing s with
  | nil => exact hclosed
  | cons a rest ih => exact ih (isClosed_act hclosed a)

theorem phase_after (hover : s.container.phase = .closed) (acts : List Act) :
    (s.after part acts).container.phase = .closed := by
  induction acts generalizing s with
  | nil => exact hover
  | cons a rest ih => exact ih (phase_act hover a)

theorem sent_closed (hclosed : s.container.isClosed = true) (acts : List Act) :
    s.sent part acts = [] := by
  induction acts generalizing s with
  | nil => rfl
  | cons a rest ih => rw [sent, sends_closed hclosed, ih (isClosed_act hclosed a), List.append_nil]

end Live

theorem write_of_closed {l : Logger} (h : l.output = .closed) (severity : Severity)
    (label message : String) (fields : Json) (o : Outside) :
    l.write severity label message fields o = .ok o := by
  simp only [Logger.write, h]
  split <;> rfl

theorem oneLine_line (r : Record) : OneLine r.line.toUTF8 :=
  oneLine_of_noControl r.toJson.noControl_compact

/-- In any run of a container of loggers every file and every stream takes the lines of the records
that were sent to it, in order and whole, and takes nothing else; a file has taken them under every
path that leads to it. The config in force can always be read and its output be opened, so a call
sends a record unless its severity does not pass. A call that sends none leaves everything as it
is, and once the container is closed nothing is sent by anyone. The logger that it has closed drops
what it is still given. -/
theorem stream_of_calls (lawful : part.Lawful) {s : Live σ}
    (reached : Reached part s.container s.world) (acts : List Act) :
    let s' := s.after part acts
    let o := part.get s.world
    let o' := part.get s'.world
    let sent := s.sent part acts
    o.Takes sent o' ∧
    (∀ path id, o'.files.Opens path (.file id) → o'.files.read path =
      .ok (o.files.content id ++ (textFor (.file (.file id)) sent).toUTF8)) ∧
    (∀ e ∈ sent, OneLine e.record.line.toUTF8) ∧
    (s'.container.isClosed = false → ∃ level output,
      readLevel s'.container.config.level = .ok level ∧
        o'.open s'.container.config.output = .ok (output, o')) ∧
    (∀ severity message fields, s'.sends part (.log severity message fields) = [] →
      (s'.act part (.log severity message fields)).container = s'.container ∧
        part.get (s'.act part (.log severity message fields)).world = o') ∧
    (s'.container.isClosed = true → ∀ later, s'.sent part later = [] ∧
      o'.Takes [] (part.get (s'.after part later).world) ∧
      ∀ severity message fields, (s'.after part later).container.log severity message fields
        (part.get (s'.after part later).world) =
          .error ⟨(s'.after part later).container.leasePanic .closed⟩) ∧
    (s'.container.phase = .closed → ∀ later severity label message fields,
      (s'.after part later).container.current.object.write severity label message fields
        (part.get (s'.after part later).world) = .ok (part.get (s'.after part later).world)) ∧
    ∀ (l : Logger) severity label message fields, l.close.write severity label message fields o' =
      .ok o' := by
  intro s' o o' sent
  have htakes : o.Takes sent o' := Live.takes_after lawful reached acts
  have hreached : Reached part s'.container s'.world := Live.reached_after lawful reached acts
  have hmade := hreached.asMade lawful
  refine ⟨htakes, ?_, ?_, ?_, ?_, ?_, ?_, ?_⟩
  · intro path id hopens
    rw [hopens.read, htakes.contents]
  · intro e _
    exact oneLine_line e.record
  · intro hopen
    obtain ⟨hlevel, houtput⟩ := make_eq_ok_iff.mp (hmade.made_of_open hopen)
    exact ⟨_, _, hlevel, houtput⟩
  · intro severity message fields hnone
    exact Live.act_of_filtered lawful hmade hnone
  · intro hclosed later
    have hnothing : s'.sent part later = [] := Live.sent_closed hclosed later
    have hlater := Live.takes_after lawful hreached later
    rw [hnothing] at hlater
    exact ⟨hnothing, hlater, fun severity message fields =>
      Live.log_closed (Live.isClosed_after hclosed later) severity message fields _⟩
  · intro hover later severity label message fields
    have hlater := (Live.reached_after lawful hreached later).asMade lawful
    exact write_of_closed (hlater.drops (Live.phase_after hover later)) severity label message
      fields _
  · intro l severity label message fields
    exact write_of_closed rfl severity label message fields o'

/-- The world of a logger that writes to a file, and a run in which it moves to another and back. -/
private def desk : Outside := { files := .start ["work"], time := "09:00" }

private def moving : List Act :=
  [.log .info "up\n" .null, .log .debug "unheard" .null, .update (.ok ⟨"warn", "other.log"⟩),
    .log .info "unheard" .null, .log .error "moved" .null, .update (.ok ⟨"debug", "none/x.log"⟩),
    .log .debug "unheard" .null, .update (.ok ⟨"debug", "./app.log"⟩), .log .debug "back" .null,
    .close, .log .error "unheard" .null]

theorem stream_of_calls_moving :
    ∃ c w, Container.build "log" (answering (.whole Outside) (.ok ⟨"info", "app.log"⟩)) desk =
        (.ok c, w) ∧
      let o := (Live.after (.whole Outside) ⟨c, w⟩ moving).world
      o.files.read "app.log" = .ok ((Record.line ⟨"09:00", "info", "up\n", .null⟩ ++
        Record.line ⟨"09:00", "debug", "back", .null⟩).toUTF8) ∧
      o.files.read "other.log" = .ok ((Record.line ⟨"09:00", "error", "moved", .null⟩).toUTF8) := by
  refine ⟨_, _, rfl, ?_⟩
  have lawful := Focus.lawful_whole Outside
  have reached := @Reached.built Outside (.whole Outside) "log" (.ok ⟨"info", "app.log"⟩) desk _ _ rfl
  obtain ⟨-, hread, -⟩ := stream_of_calls lawful (s := ⟨_, _⟩) reached moving
  have hfirst := hread "app.log" 0 ⟨⟨["work"], "app.log", rfl, rfl⟩, nofun⟩
  have hsecond := hread "other.log" 1 ⟨⟨["work"], "other.log", rfl, rfl⟩, nofun⟩
  exact ⟨hfirst.trans (congrArg Except.ok (by decide +kernel)),
    hsecond.trans (congrArg Except.ok (by decide +kernel))⟩

end Serving

end Logger

end LiveConfig
