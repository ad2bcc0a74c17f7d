import XcpCephRbd.Lib.Prog
import XcpCephRbd.Datapath.Resolve

/-!
# The drain of a qemu-mode detach, reply by reply

`drain_mirror` and `detach` of `dp_qemu.py` with the QMP client of `qsd.py`, against a storage
daemon that may answer anything: the lines it sends are an input, and the connection closes where
they end. The drain polls until the mirror job is ready, completes it and polls until it is gone,
600 times at most in each loop, and a catch-all around it only logs. So a detach that resolves its
URI returns whatever happened, and `drained_iff` says for which replies it has drained the job.
-/

namespace XcpCephRbd.Qmp

/-- What the drain reads of an entry of `query-block-jobs`. -/
structure Job where
  type : String
  device : Option String := none
  id : Option String := none
  ready : Bool := false
  deriving DecidableEq, Repr

/-- `j.get("device") or j.get("id")`. -/
def Job.handle (j : Job) : Option String :=
  match j.device with
  | some device => if device = "" then j.id else some device
  | none => j.id

/-- A line that the daemon sends: an asynchronous event, an error, a return (the jobs listed in it)
or something that is not JSON. -/
inductive Line where
  | event
  | error
  | ret (jobs : List Job)
  | junk
  deriving DecidableEq, Repr

/-- The commands of the drain. -/
inductive Command where
  | capabilities
  | queryBlockJobs
  | complete (device : Option String)
  | delDst
  deriving DecidableEq, Repr

/-- What a detach calls. -/
inductive Call where
  | connect
  | cmd (command : Command)
  | refDel (domain : String)
  | stop
  | unmap
  deriving DecidableEq, Repr

/-- What a call answers: the jobs of a QMP return, the references that are left. -/
def Call.Reply : Call → Type
  | .cmd _ => List Job
  | .refDel _ => Nat
  | _ => Unit

/-- A program over these calls; an exception is its text. -/
abbrev Py (α : Type) : Type := Prog String Call Call.Reply α

/-- Make one call. -/
def ask (c : Call) : Py c.Reply := Prog.perform c

/-- `q.cmd(command)`. -/
def cmd (command : Command) : Py (List Job) := ask (.cmd command)

/-- `_del_dst(q)`. -/
def delDst : Py Unit :=
  tryCatch (do let _ ← cmd .delDst) fun _ => pure ()

/-- The loop that waits until the job is ready: `false` when the job is gone, `true` when it is
ready or `left` polls have passed. -/
def awaitReady (jid : Option String) : Nat → Py Bool
  | 0 => pure true
  | left + 1 => do
      let jobs ← cmd .queryBlockJobs
      match jobs.find? fun j => j.handle == jid with
      | none => pure false
      | some m => if m.ready then pure true else awaitReady jid left

/-- The loop that waits for the job to end. -/
def awaitGone (jid : Option String) : Nat → Py Unit
  | 0 => pure ()
  | left + 1 => do
      let jobs ← cmd .queryBlockJobs
      if jobs.any fun j => j.handle == jid then awaitGone jid left else pure ()

/-- The polls of each loop. -/
def polls : Nat := 600

/-- The session of the drain, inside the catch-all. -/
def drainSession : Py Unit := do
  ask .connect
  let _ ← cmd .capabilities
  let jobs ← cmd .queryBlockJobs
  match jobs.find? fun j => j.type == "mirror" with
  | none => delDst
  | some job =>
      if ← awaitReady job.handle polls then
        let _ ← cmd (.complete job.handle)
        awaitGone job.handle polls
        delDst
      else
        delDst

/-- `drain_mirror(image)`. -/
def drainMirror : Py Unit := tryCatch drainSession fun _ => pure ()

/-- `qsd.ref_del(image, domain)`. -/
def refDel (domain : String) : Py Nat := ask (.refDel domain)

/-- `dp_qemu.detach(image, domain)`: whether it tore down. -/
def detach (domain : String) : Py Bool := do
  drainMirror
  let left ← refDel domain
  if 0 < left then
    pure false
  else
    tryCatch (ask .stop) fun _ => pure ()
    pure true

/-- `Datapath.detach(uri, domain)`; it raises where `srmeta.read` does. The branches of the other
modes are a parameter, with whether they ask for the unmap. -/
def datapathDetach (other : Datapath.Target → Py Bool) (read : String → Option Datapath.SrMeta)
    (uri domain : String) : Py Unit :=
  match Datapath.resolve read uri with
  | none => throw "srmeta: no such SR"
  | some target => do
      let doUnmap ← if target.mode = "qemu" then detach domain else other target
      if doUnmap then
        tryCatch (ask .unmap) fun _ => pure ()

/-- What a detach is seen to do. -/
inductive Event where
  | queried (jobs : List Job)
  | completed (device : Option String)
  | stopped
  deriving DecidableEq, Repr

/-- The environment of a detach: whether the socket can be connected, the lines that are still to
come, the references other consumers hold, whether stop and unmap succeed; and the events so far. -/
structure Env where
  connects : Bool := true
  lines : List Line := []
  others : Nat := 0
  stops : Bool := true
  unmaps : Bool := true
  log : List Event := []
  deriving DecidableEq, Repr

/-- The reply to a command: events are skipped, and an error, a line that is not JSON and the end of
the connection raise. -/
def readReply : List Line → Except String (List Job) × List Line
  | [] => (.error "qsd qmp: connection closed", [])
  | .event :: rest => readReply rest
  | .error :: rest => (.error "qsd qmp failed", rest)
  | .junk :: rest => (.error "json", rest)
  | .ret jobs :: rest => (.ok jobs, rest)

/-- The event of a command that returned. -/
def Command.events : Command → List Job → List Event
  | .queryBlockJobs, jobs => [.queried jobs]
  | .complete device, _ => [.completed device]
  | _, _ => []

/-- The answer to a call. The greeting is read with the connection, whatever it is. -/
def answer (env : Env) : (c : Call) → Option (Except String c.Reply × Env)
  | .connect =>
      if env.connects then some (.ok (), { env with lines := env.lines.tail })
      else some (.error "connect", env)
  | .cmd command =>
      match readReply env.lines with
      | (.ok jobs, rest) =>
          some (.ok jobs, { env with lines := rest, log := env.log ++ command.events jobs })
      | (.error message, rest) => some (.error message, { env with lines := rest })
  | .refDel _ => some (.ok env.others, env)
  | .stop =>
      some (if env.stops then .ok () else .error "stop",
        { env with log := env.log ++ [.stopped] })
  | .unmap => some (if env.unmaps then .ok () else .error "unmap", env)

/-- The replies among the lines of the daemon. -/
def replies (lines : List Line) : List Line := lines.filter (· != .event)

/-- The entry of the job `jid` in a list of jobs. -/
def entry (jid : Option String) (jobs : List Job) : Option Job :=
  jobs.find? fun j => j.handle == jid

/-- The job `jid` is listed. -/
def Listed (jid : Option String) (jobs : List Job) : Prop := (entry jid jobs).isSome

/-- The job `jid` is listed as ready. -/
def Ready (jid : Option String) (jobs : List Job) : Prop := ∃ j, entry jid jobs = some j ∧ j.ready

/-- The job `jid` is listed and not ready yet. -/
def Waiting (jid : Option String) (jobs : List Job) : Prop :=
  ∃ j, entry jid jobs = some j ∧ j.ready = false

/-- The job was seen ready, then its completion was accepted, then it was seen gone, all before the
daemon was stopped. -/
def Drained (jid : Option String) (log : List Event) : Prop :=
  ∃ before shown between waiting gone rest,
    log = before ++ .queried shown :: between ++ .completed jid :: waiting ++
      .queried gone :: rest ∧
    Event.stopped ∉ before ++ between ++ waiting ∧ Ready jid shown ∧ ¬Listed jid gone

/-- Polls that show the job and end, within `n` of them, with a ready one. -/
def EndsReady (jid : Option String) (n : Nat) (found : List (List Job)) : Prop :=
  ∃ early last, found = early ++ [last] ∧ early.length < n ∧ (∀ jobs ∈ early, Waiting jid jobs) ∧
    Ready jid last

/-- All of `n` polls show a job that is not ready. -/
def UsedUp (jid : Option String) (n : Nat) (found : List (List Job)) : Prop :=
  found.length = n ∧ ∀ jobs ∈ found, Waiting jid jobs

/-- Polls that show the job and end, within `n` of them, with one that does not. -/
def EndsGone (jid : Option String) (n : Nat) (waited : List (List Job)) : Prop :=
  ∃ early last, waited = early ++ [last] ∧ early.length < n ∧ (∀ jobs ∈ early, Listed jid jobs) ∧
    ¬Listed jid last

/-- The replies that drain the job `jid`: capabilities are negotiated, the first query shows it as
the mirror job, it becomes ready within the polls (or the first query showed it ready and the polls
are used up), its completion is accepted, and it is gone within the polls. -/
def Drains (jid : Option String) (answers : List Line) : Prop :=
  ∃ (caps first : List Job) (found : List (List Job)) (accepted : List Job)
    (waited : List (List Job)) (rest : List Line),
    answers = .ret caps :: .ret first :: found.map .ret ++
      .ret accepted :: waited.map .ret ++ rest ∧
    (first.find? fun j => j.type == "mirror").map Job.handle = some jid ∧
    (EndsReady jid polls found ∨ UsedUp jid polls found ∧ Ready jid first) ∧
    EndsGone jid polls waited

section Replies

variable {lines rest : List Line} {jobs : List Job}

/-- A command that returned has read the next reply. -/
theorem replies_of_readReply (h : readReply lines = (.ok jobs, rest)) :
    replies lines = .ret jobs :: replies rest := by
  induction lines with
  | nil => cases h
  | cons line tail ih =>
      cases line with
      | event => exact ih h
      | error => cases h
      | junk => cases h
      | ret listed =>
          cases h
          rfl

/-- Where the next reply is a return, a command returns it. -/
theorem readReply_of_replies {tail : List Line} (h : replies lines = .ret jobs :: tail) :
    ∃ rest, readReply lines = (.ok jobs, rest) ∧ replies rest = tail := by
  induction lines with
  | nil => cases h
  | cons line after ih =>
      cases line with
      | event => exact ih h
      | error => cases h
      | junk => cases h
      | ret listed =>
          cases h
          exact ⟨after, rfl, rfl⟩

end Replies

section Loops

variable {env env' : Env} {jid : Option String}

/-- A command that returned has taken a reply and left its event. -/
theorem answer_cmd_ok {command : Command} {jobs : List Job}
    (h : answer env (.cmd command) = some (.ok jobs, env')) :
    replies env.lines = .ret jobs :: replies env'.lines ∧
      env'.log = env.log ++ command.events jobs ∧ env'.others = env.others := by
  dsimp only [answer] at h
  split at h
  next jobs' rest hread =>
      cases h
      exact ⟨replies_of_readReply hread, rfl, rfl⟩
  next => cases h

/-- A command that raised has left no event. -/
theorem answer_cmd_error {command : Command} {message : String}
    (h : answer env (.cmd command) = some (.error message, env')) :
    env'.log = env.log ∧ env'.others = env.others := by
  dsimp only [answer] at h
  split at h
  next => cases h
  next =>
      cases h
      exact ⟨rfl, rfl⟩

/-- A command is answered. -/
theorem exists_answer (env : Env) (c : Call) : ∃ reply env', answer env c = some (reply, env') := by
  cases c with
  | connect =>
      by_cases hconnects : env.connects
      · exact ⟨_, _, if_pos hconnects⟩
      · exact ⟨_, _, if_neg hconnects⟩
  | cmd command =>
      dsimp only [answer]
      split
      · exact ⟨_, _, rfl⟩
      · exact ⟨_, _, rfl⟩
  | refDel domain => exact ⟨_, _, rfl⟩
  | stop => exact ⟨_, _, rfl⟩
  | unmap => exact ⟨_, _, rfl⟩

/-- What the first loop leaves: its polls, and, where it goes on to complete the job, that they
ended with a ready one or were used up. -/
theorem awaitReady_log {n : Nat} {outcome : Except String Bool}
    (h : (awaitReady jid n).exec answer env = some (outcome, env')) :
    ∃ found : List (List Job), env'.log = env.log ++ found.map .queried ∧
      env'.others = env.others ∧
      (outcome = .ok true → replies env.lines = found.map .ret ++ replies env'.lines ∧
        (EndsReady jid n found ∨ UsedUp jid n found)) := by
  induction n generalizing env with
  | zero =>
      cases h
      exact ⟨[], by simp, rfl, fun _ => ⟨by simp, .inr ⟨rfl, by simp⟩⟩⟩
  | succ n ih =>
      obtain ⟨jobs, between, hcmd, hrest⟩ | ⟨message, hcmd, rfl⟩ := Prog.of_exec_bind h
      swap
      · obtain ⟨hlog, hothers⟩ := answer_cmd_error (Prog.of_exec_perform hcmd)
        exact ⟨[], by simpa using hlog, hothers, by simp⟩
      obtain ⟨hreplies, hlog, hothers⟩ := answer_cmd_ok (Prog.of_exec_perform hcmd)
      cases hentry : entry jid jobs with
      | none =>
          have hfind : (jobs.find? fun j => j.handle == jid) = none := hentry
          simp only [hfind] at hrest
          cases hrest
          exact ⟨[jobs], hlog, hothers, by simp⟩
      | some m =>
          have hfind : (jobs.find? fun j => j.handle == jid) = some m := hentry
          simp only [hfind] at hrest
          by_cases hready : m.ready
          · rw [if_pos hready] at hrest
            cases hrest
            refine ⟨[jobs], hlog, hothers, fun _ => ⟨by simpa using hreplies, .inl ?_⟩⟩
            exact ⟨[], jobs, rfl, by simp, by simp, m, hentry, hready⟩
          · rw [if_neg hready] at hrest
            obtain ⟨found, hlog', hothers', hmore⟩ := ih hrest
            have hwaiting : Waiting jid jobs := ⟨m, hentry, by simpa using hready⟩
            refine ⟨jobs :: found, ?_, hothers'.trans hothers, fun hok => ?_⟩
            · rw [hlog', hlog]
              simp [Command.events]
            · obtain ⟨hreplies', hshape⟩ := hmore hok
              refine ⟨by rw [hreplies, hreplies', List.map_cons, List.cons_append], ?_⟩
              obtain ⟨early, last, rfl, hlength, hall, hlast⟩ | ⟨hlength, hall⟩ := hshape
              · refine .inl ⟨jobs :: early, last, rfl, by simpa using hlength, ?_, hlast⟩
                simpa [hwaiting] using hall
              · exact .inr ⟨by simpa using hlength, by simpa [hwaiting] using hall⟩

/-- What the second loop leaves: its polls, all of which show the job unless the loop ended with the
one that does not. -/
theorem awaitGone_log {n : Nat} {outcome : Except String Unit}
    (h : (awaitGone jid n).exec answer env = some (outcome, env')) :
    ∃ waited : List (List Job), env'.log = env.log ++ waited.map .queried ∧
      env'.others = env.others ∧
      ((replies env.lines = waited.map .ret ++ replies env'.lines ∧ EndsGone jid n waited) ∨
        ∀ jobs ∈ waited, Listed jid jobs) := by
  induction n generalizing env with
  | zero =>
      cases h
      exact ⟨[], by simp, rfl, .inr (by simp)⟩
  | succ n ih =>
      obtain ⟨jobs, between, hcmd, hrest⟩ | ⟨message, hcmd, rfl⟩ := Prog.of_exec_bind h
      swap
      · obtain ⟨hlog, hothers⟩ := answer_cmd_error (Prog.of_exec_perform hcmd)
        exact ⟨[], by simpa using hlog, hothers, .inr (by simp)⟩
      obtain ⟨hreplies, hlog, hothers⟩ := answer_cmd_ok (Prog.of_exec_perform hcmd)
      have hlisted : Listed jid jobs ↔ (jobs.any fun j => j.handle == jid) = true := by
        simp [Listed, entry]
      by_cases hany : (jobs.any fun j => j.handle == jid) = true
      · rw [if_pos hany] at hrest
        obtain ⟨waited, hlog', hothers', hshape⟩ := ih hrest
        refine ⟨jobs :: waited, ?_, hothers'.trans hothers, ?_⟩
        · rw [hlog', hlog]
          simp [Command.events]
        · obtain ⟨hreplies', early, last, rfl, hlength, hall, hlast⟩ | hall := hshape
          · refine .inl ⟨by rw [hreplies, hreplies', List.map_cons, List.cons_append], ?_⟩
            refine ⟨jobs :: early, last, rfl, by simpa using hlength, ?_, hlast⟩
            simpa [hlisted.mpr hany] using hall
          · exact .inr (by simpa [hlisted.mpr hany] using hall)
      · rw [if_neg hany] at hrest
        cases hrest
        refine ⟨[jobs], hlog, hothers, .inl ⟨by simpa using hreplies, ?_⟩⟩
        exact ⟨[], jobs, rfl, by simp, by simp, fun hno => hany (hlisted.mp hno)⟩

end Loops

/-- Removing the target node leaves no event, whatever it is answered. -/
theorem delDst_log {env env' : Env} {outcome : Except String Unit}
    (h : delDst.exec answer env = some (outcome, env')) :
    env'.log = env.log ∧ env'.others = env.others := by
  obtain ⟨_, hbody, rfl⟩ | ⟨_, between, hbody, hend⟩ := Prog.of_exec_tryCatch h
  · obtain ⟨jobs, next, hcmd, hrest⟩ | ⟨_, _, hno⟩ := Prog.of_exec_bind hbody
    · cases hrest
      obtain ⟨-, hlog, hothers⟩ := answer_cmd_ok (Prog.of_exec_perform hcmd)
      exact ⟨by simpa [Command.events] using hlog, hothers⟩
    · cases hno
  · cases hend
    obtain ⟨_, _, _, hrest⟩ | ⟨_, hcmd, _⟩ := Prog.of_exec_bind hbody
    · cases hrest
    · exact answer_cmd_error (Prog.of_exec_perform hcmd)

/-- What a drain session leaves: it completes no job; or it completes the first mirror job after its
polls, and the polls after that all show the job unless the replies drain it. -/
inductive SessionLog (env : Env) : List Event → Prop where
  | idle {events : List Event} : (∀ event ∈ events, ∃ jobs, event = .queried jobs) →
      SessionLog env events
  | completed {jid : Option String} {caps first accepted : List Job}
    {found waited : List (List Job)}
      {rest : List Line} :
      env.connects = true →
      replies env.lines.tail = .ret caps :: .ret first :: found.map .ret ++ .ret accepted :: rest →
      (first.find? fun j => j.type == "mirror").map Job.handle = some jid →
      (EndsReady jid polls found ∨ UsedUp jid polls found) →
      ((∃ after, rest = waited.map .ret ++ after) ∧ EndsGone jid polls waited ∨
        ∀ jobs ∈ waited, Listed jid jobs) →
      SessionLog env
        (.queried first :: found.map .queried ++ .completed jid :: waited.map .queried)

/-- A drain session leaves such a log. -/
theorem drainSession_log {env env' : Env} {outcome : Except String Unit}
    (h : drainSession.exec answer env = some (outcome, env')) :
    ∃ events, env'.log = env.log ++ events ∧ env'.others = env.others ∧ SessionLog env events := by
  have hidle : SessionLog env [] := .idle (by simp)
  -- the connection
  obtain ⟨_, env1, hconnect, h1⟩ | ⟨_, hconnect, -⟩ := Prog.of_exec_bind h
  swap
  · have hanswer := Prog.of_exec_perform hconnect
    dsimp only [answer] at hanswer
    split at hanswer <;> cases hanswer
    exact ⟨[], by simp, rfl, hidle⟩
  have hanswer := Prog.of_exec_perform hconnect
  dsimp only [answer] at hanswer
  split at hanswer
  swap
  · cases hanswer
  next hconnects =>
  cases hanswer
  -- the negotiation
  obtain ⟨caps, env2, hcaps, h2⟩ | ⟨_, hcaps, -⟩ := Prog.of_exec_bind h1
  swap
  · obtain ⟨hlog, hothers⟩ := answer_cmd_error (Prog.of_exec_perform hcaps)
    exact ⟨[], by simpa using hlog, hothers, hidle⟩
  obtain ⟨hreplies2, hlog2, hothers2⟩ := answer_cmd_ok (Prog.of_exec_perform hcaps)
  -- the first query
  obtain ⟨first, env3, hquery, h3⟩ | ⟨_, hquery, -⟩ := Prog.of_exec_bind h2
  swap
  · obtain ⟨hlog, hothers⟩ := answer_cmd_error (Prog.of_exec_perform hquery)
    exact ⟨[], by simpa [hlog2, Command.events] using hlog, hothers.trans hothers2, hidle⟩
  obtain ⟨hreplies3, hlog3, hothers3⟩ := answer_cmd_ok (Prog.of_exec_perform hquery)
  have hfirst : env3.log = env.log ++ [.queried first] := by
    simpa [hlog2, Command.events] using hlog3
  cases hfind : first.find? fun j => j.type == "mirror" with
  | none =>
      simp only [hfind] at h3
      obtain ⟨hlog, hothers⟩ := delDst_log h3
      refine ⟨[.queried first], hlog.trans hfirst, hothers.trans (hothers3.trans hothers2), ?_⟩
      exact .idle (by simp)
  | some job =>
      simp only [hfind] at h3
      obtain ⟨goOn, env4, hready, h4⟩ | ⟨message, hready, -⟩ := Prog.of_exec_bind h3
      swap
      · obtain ⟨found, hlog, hothers, -⟩ := awaitReady_log hready
        refine ⟨.queried first :: found.map .queried, by simp [hlog, hfirst],
          hothers.trans (hothers3.trans hothers2), .idle (by simp)⟩
      obtain ⟨found, hlog4, hothers4, hfound⟩ := awaitReady_log hready
      have hlog : env4.log = env.log ++ .queried first :: found.map .queried := by
        simp [hlog4, hfirst]
      have hothers : env4.others = env.others := hothers4.trans (hothers3.trans hothers2)
      cases goOn with
      | false =>
          obtain ⟨hlog5, hothers5⟩ := delDst_log h4
          exact ⟨_, hlog5.trans hlog, hothers5.trans hothers, .idle (by simp)⟩
      | true =>
          obtain ⟨hreplies4, hpolls⟩ := hfound rfl
          -- the completion
          obtain ⟨accepted, env5, hcomplete, h5⟩ | ⟨_, hcomplete, -⟩ := Prog.of_exec_bind h4
          swap
          · obtain ⟨hlog5, hothers5⟩ := answer_cmd_error (Prog.of_exec_perform hcomplete)
            exact ⟨_, hlog5.trans hlog, hothers5.trans hothers, .idle (by simp)⟩
          obtain ⟨hreplies5, hlog5, hothers5⟩ := answer_cmd_ok (Prog.of_exec_perform hcomplete)
          have hreplies : replies env.lines.tail =
              .ret caps :: .ret first :: found.map .ret ++ .ret accepted :: replies env5.lines := by
            simp only [hreplies2, hreplies3, hreplies4, hreplies5, List.cons_append]
          -- the wait
          have hwait : ∃ outcome6 env6,
              (awaitGone job.handle polls).exec answer env5 = some (outcome6, env6) ∧
                env'.log = env6.log ∧ env'.others = env6.others := by
            obtain ⟨_, env6, hgone, h6⟩ | ⟨_, hgone, -⟩ := Prog.of_exec_bind h5
            · exact ⟨_, env6, hgone, delDst_log h6⟩
            · exact ⟨_, env', hgone, rfl, rfl⟩
          obtain ⟨outcome6, env6, hgone, hlog6, hothers6⟩ := hwait
          obtain ⟨waited, hlog7, hothers7, hshape⟩ := awaitGone_log hgone
          refine ⟨.queried first :: found.map .queried ++ .completed job.handle ::
            waited.map .queried, ?_, hothers6.trans (hothers7.trans (hothers5.trans hothers)), ?_⟩
          · simp [hlog6, hlog7, hlog5, hlog, Command.events]
          · refine .completed hconnects hreplies (by rw [hfind, Option.map_some]) hpolls ?_
            exact hshape.imp_left fun hend => ⟨⟨_, hend.1⟩, hend.2⟩

section Replayed

variable {env : Env} {jid : Option String}

/-- Where the next reply is a return, the command takes it. -/
theorem exec_cmd (command : Command) {jobs : List Job} {tail : List Line}
    (h : replies env.lines = .ret jobs :: tail) :
    ∃ lines, (cmd command).exec answer env =
        some (.ok jobs, { env with lines := lines, log := env.log ++ command.events jobs }) ∧
      replies lines = tail := by
  obtain ⟨lines, hread, htail⟩ := readReply_of_replies h
  refine ⟨lines, Prog.exec_perform ?_, htail⟩
  simp only [answer, hread]
  rfl

/-- Polls that end with a ready job, or that are used up, end the first loop. -/
theorem exec_awaitReady {n : Nat} {found : List (List Job)} {tail : List Line}
    (h : replies env.lines = found.map .ret ++ tail)
    (hfound : EndsReady jid n found ∨ UsedUp jid n found) :
    ∃ lines, (awaitReady jid n).exec answer env =
        some (.ok true, { env with lines := lines, log := env.log ++ found.map .queried }) ∧
      replies lines = tail := by
  induction n generalizing env found with
  | zero =>
      obtain ⟨early, last, -, hlength, -⟩ | ⟨hlength, -⟩ := hfound
      · omega
      · cases List.eq_nil_of_length_eq_zero hlength
        exact ⟨env.lines, by simp [awaitReady, Prog.exec], by simpa using h⟩
  | succ n ih =>
      cases found with
      | nil =>
          obtain ⟨early, last, hnil, -⟩ | ⟨hlength, -⟩ := hfound
          · simp at hnil
          · simp at hlength
      | cons jobs found =>
          have hnext : replies env.lines = .ret jobs :: (found.map .ret ++ tail) := h
          obtain ⟨lines, hcmd, hlines⟩ := exec_cmd .queryBlockJobs hnext
          -- a poll that is not the last one shows the job not ready
          have hmore : Waiting jid jobs → (EndsReady jid n found ∨ UsedUp jid n found) →
              ∃ lines, (awaitReady jid (n + 1)).exec answer env = some (.ok true,
                { env with lines := lines, log := env.log ++ (jobs :: found).map .queried }) ∧
              replies lines = tail := by
            rintro ⟨m, hentry, hready⟩ hrest
            let after : Env := { env with lines := lines, log := env.log ++ [.queried jobs] }
            obtain ⟨lines', hloop, hlines'⟩ := @ih after found hlines hrest
            refine ⟨lines', (Prog.exec_bind hcmd).trans ?_, hlines'⟩
            have hfind : (jobs.find? fun j => j.handle == jid) = some m := hentry
            simp only [hfind, hready]
            refine hloop.trans ?_
            simp [after]
          obtain ⟨early, last, hcons, hlength, hall, hlast⟩ | ⟨hlength, hall⟩ := hfound
          · cases early with
            | nil =>
                obtain ⟨m, hentry, hready⟩ := hlast
                cases hcons
                refine ⟨lines, (Prog.exec_bind hcmd).trans ?_, by simpa using hlines⟩
                have hfind : (jobs.find? fun j => j.handle == jid) = some m := hentry
                simp [hfind, hready, Prog.exec, Command.events]
            | cons head early =>
                cases hcons
                refine hmore (hall _ List.mem_cons_self) (.inl ⟨early, last, rfl, ?_, ?_, hlast⟩)
                · simpa using hlength
                · exact fun jobs hjobs => hall jobs (List.mem_cons_of_mem _ hjobs)
          · refine hmore (hall _ List.mem_cons_self) (.inr ⟨by simpa using hlength, ?_⟩)
            exact fun jobs hjobs => hall jobs (List.mem_cons_of_mem _ hjobs)

/-- Polls that end with the job gone end the second loop. -/
theorem exec_awaitGone {n : Nat} {waited : List (List Job)} {tail : List Line}
    (h : replies env.lines = waited.map .ret ++ tail) (hwaited : EndsGone jid n waited) :
    ∃ lines, (awaitGone jid n).exec answer env =
        some (.ok (), { env with lines := lines, log := env.log ++ waited.map .queried }) := by
  obtain ⟨early, last, rfl, hlength, hall, hlast⟩ := hwaited
  have hlisted : ∀ jobs, Listed jid jobs ↔ (jobs.any fun j => j.handle == jid) = true := by
    intro jobs
    simp [Listed, entry]
  induction early generalizing env n with
  | nil =>
      cases n with
      | zero => simp at hlength
      | succ n =>
          obtain ⟨lines, hcmd, -⟩ := exec_cmd .queryBlockJobs h
          refine ⟨lines, (Prog.exec_bind hcmd).trans ?_⟩
          rw [hlisted] at hlast
          rw [if_neg hlast]
          rfl
  | cons jobs early ih =>
      cases n with
      | zero => simp at hlength
      | succ n =>
          have hnext : replies env.lines = .ret jobs :: ((early ++ [last]).map .ret ++ tail) := h
          obtain ⟨lines, hcmd, hlines⟩ := exec_cmd .queryBlockJobs hnext
          let after : Env := { env with lines := lines, log := env.log ++ [.queried jobs] }
          obtain ⟨lines', hloop⟩ := @ih after n hlines (by simpa using hlength)
            (fun jobs hjobs => hall jobs (List.mem_cons_of_mem _ hjobs))
          refine ⟨lines', (Prog.exec_bind hcmd).trans ?_⟩
          rw [if_pos ((hlisted jobs).mp (hall jobs List.mem_cons_self))]
          refine hloop.trans ?_
          simp [after]

/-- Replies that drain the job lead the session through both loops. -/
theorem exec_drainSession (hconnects : env.connects = true)
    (h : Drains jid (replies env.lines.tail)) :
    ∃ (env' : Env) (first : List Job) (found waited : List (List Job)),
      drainSession.exec answer env = some (.ok (), env') ∧
      env'.log = env.log ++
        (.queried first :: found.map .queried ++ .completed jid :: waited.map .queried) ∧
      (∃ shown ∈ first :: found, Ready jid shown) ∧ EndsGone jid polls waited := by
  obtain ⟨caps, first, found, accepted, waited, rest, hanswers, hmirror, hfound, hwaited⟩ := h
  obtain ⟨job, hfind, rfl⟩ := Option.map_eq_some_iff.mp hmirror
  let env0 : Env := { env with lines := env.lines.tail }
  have hconnect : (ask .connect).exec answer env = some (.ok (), env0) :=
    Prog.exec_perform (if_pos hconnects)
  obtain ⟨lines1, hcaps, hlines1⟩ := @exec_cmd env0 .capabilities _ _ hanswers
  let env1 : Env := { env0 with lines := lines1 }
  have hcaps' : (cmd .capabilities).exec answer env0 = some (.ok caps, env1) := by
    simpa [Command.events] using hcaps
  obtain ⟨lines2, hquery, hlines2⟩ := @exec_cmd env1 .queryBlockJobs _ _ hlines1
  let env2 : Env := { env1 with lines := lines2, log := env.log ++ [.queried first] }
  have hpolls : EndsReady job.handle polls found ∨ UsedUp job.handle polls found :=
    hfound.imp_right And.left
  have hlines2' : replies env2.lines =
      found.map .ret ++ (.ret accepted :: (waited.map .ret ++ rest)) := by
    simpa using hlines2
  obtain ⟨lines3, hready, hlines3⟩ := exec_awaitReady hlines2' hpolls
  let env3 : Env := { env2 with lines := lines3, log := env2.log ++ found.map .queried }
  obtain ⟨lines4, hcomplete, hlines4⟩ := @exec_cmd env3 (.complete job.handle) _ _ hlines3
  let env4 : Env := { env3 with lines := lines4, log := env3.log ++ [.completed job.handle] }
  obtain ⟨lines5, hgone⟩ := @exec_awaitGone env4 _ _ _ _ hlines4 hwaited
  let env5 : Env := { env4 with lines := lines5, log := env4.log ++ waited.map .queried }
  obtain ⟨outcome, env6, hdel⟩ := Prog.exists_exec exists_answer delDst env5
  have houtcome : outcome = .ok () := by
    obtain ⟨_, -, rfl⟩ | ⟨_, _, -, hend⟩ := Prog.of_exec_tryCatch hdel
    · rfl
    · cases hend
      rfl
  refine ⟨env6, first, found, waited, ?_, ?_, ?_, hwaited⟩
  · refine (Prog.exec_bind hconnect).trans ((Prog.exec_bind hcaps').trans ?_)
    refine (Prog.exec_bind hquery).trans ?_
    simp only [hfind]
    refine (Prog.exec_bind hready).trans ?_
    rw [if_pos rfl]
    refine (Prog.exec_bind hcomplete).trans ((Prog.exec_bind hgone).trans ?_)
    rw [← houtcome]
    exact hdel
  · rw [(delDst_log hdel).1]
    simp [env5, env4, env3, env2]
  · obtain ⟨early, last, rfl, -, -, hlast⟩ | ⟨-, hfirst⟩ := hfound
    · exact ⟨last, by simp, hlast⟩
    · exact ⟨first, by simp, hfirst⟩

end Replayed

section Detach

variable {other : Datapath.Target → Py Bool} {read : String → Option Datapath.SrMeta}
  {uri : String} {target : Datapath.Target}

/-- A detach of a URI that resolves returns; what it logs after the drain is at most that the daemon
was stopped. -/
theorem datapathDetach_log (hresolve : Datapath.resolve read uri = some target)
    (hmode : target.mode = "qemu") (domain : String) (env : Env) :
    ∃ outcome env1 env2, drainSession.exec answer env = some (outcome, env1) ∧
      (datapathDetach other read uri domain).exec answer env = some (.ok (), env2) ∧
      (env2.log = env1.log ∨ env2.log = env1.log ++ [.stopped]) := by
  obtain ⟨outcome, env1, hsession⟩ := Prog.exists_exec exists_answer drainSession env
  have hdrain : drainMirror.exec answer env = some (.ok (), env1) := Prog.exec_swallow hsession
  have hrefs : (refDel domain).exec answer env1 = some (.ok env1.others, env1) :=
    Prog.exec_perform rfl
  by_cases hothers : 0 < env1.others
  · refine ⟨outcome, env1, env1, hsession, ?_, .inl rfl⟩
    simp only [datapathDetach, hresolve, if_pos hmode]
    have hdetach : (detach domain).exec answer env = some (.ok false, env1) := by
      refine (Prog.exec_bind hdrain).trans ((Prog.exec_bind hrefs).trans ?_)
      rw [if_pos hothers]
      rfl
    exact Prog.exec_bind hdetach
  · let env2 : Env := { env1 with log := env1.log ++ [.stopped] }
    have hstop : (tryCatch (ask .stop) fun _ => pure () : Py Unit).exec answer env1 =
        some (.ok (), env2) := Prog.exec_swallow (Prog.exec_perform rfl)
    have hunmap : (tryCatch (ask .unmap) fun _ => pure () : Py Unit).exec answer env2 =
        some (.ok (), env2) := Prog.exec_swallow (Prog.exec_perform rfl)
    refine ⟨outcome, env1, env2, hsession, ?_, .inr rfl⟩
    simp only [datapathDetach, hresolve, if_pos hmode]
    have hdetach : (detach domain).exec answer env = some (.ok true, env2) := by
      refine (Prog.exec_bind hdrain).trans ((Prog.exec_bind hrefs).trans ?_)
      rw [if_neg hothers]
      exact Prog.exec_bind hstop
    exact (Prog.exec_bind hdetach).trans hunmap

end Detach

/-- The job is seen ready, completed and gone in what a session logs only if the replies drain
it. -/
theorem SessionLog.drains {env : Env} {jid : Option String} {events tail : List Event}
    (h : SessionLog env events) (htail : tail = [] ∨ tail = [.stopped])
    (hdrained : Drained jid (events ++ tail)) :
    env.connects = true ∧ Drains jid (replies env.lines.tail) := by
  obtain ⟨before, shown, between, waiting, gone, rest, hlog, -, hready, hgone⟩ := hdrained
  have hmem : .completed jid ∈ events ++ tail := by simp [hlog]
  have hnotTail : .completed jid ∉ tail := by
    obtain rfl | rfl := htail <;> simp
  cases h with
  | idle hquery =>
      obtain hevent | hevent := List.mem_append.mp hmem
      · obtain ⟨jobs, hjobs⟩ := hquery _ hevent
        cases hjobs
      · exact absurd hevent hnotTail
  | @completed jid' caps first accepted found waited replied hconnects hreplies hfirst hfound
      hwaited =>
      -- only one completion is logged, so the two readings of the log agree on both sides of it
      have hsplit : (before ++ .queried shown :: between) ++ .completed jid ::
            (waiting ++ .queried gone :: rest) =
          (.queried first :: found.map .queried) ++ .completed jid' ::
            (waited.map .queried ++ tail) := by
        simpa using hlog.symm
      have hnotFound : ∀ d, Event.completed d ∉ Event.queried first :: found.map .queried := by simp
      have hnotWaited : ∀ d, Event.completed d ∉ waited.map .queried ++ tail := by
        obtain rfl | rfl := htail <;> simp
      obtain ⟨hbefore, hjid, hafter⟩ :=
        (List.append_cons_inj_of_notMem (hnotFound jid) (hnotWaited jid)).mp hsplit.symm
      cases hjid
      have hshown : shown = first ∨ shown ∈ found := by
        have hmem : Event.queried shown ∈ Event.queried first :: found.map .queried := by
          simp [hbefore]
        simpa using hmem
      have hgoneMem : gone ∈ waited := by
        have hmem : Event.queried gone ∈ waited.map .queried ++ tail := by simp [hafter]
        obtain rfl | rfl := htail <;> simpa using hmem
      obtain ⟨⟨after, rfl⟩, hends⟩ | hlisted := hwaited
      swap
      · exact absurd (hlisted gone hgoneMem) hgone
      refine ⟨hconnects, caps, first, found, accepted, waited, after, ?_, hfirst, ?_, hends⟩
      · simpa using hreplies
      · obtain hready' | hused := hfound
        · exact .inl hready'
        · refine .inr ⟨hused, ?_⟩
          obtain rfl | hin := hshown
          · exact hready
          · obtain ⟨m, hentry, hnot⟩ := hused.2 shown hin
            obtain ⟨m', hentry', hyes⟩ := hready
            rw [hentry] at hentry'
            cases hentry'
            rw [hnot] at hyes
            cases hyes

/-- Replies that drain the job leave a log in which it is seen ready, completed and gone. -/
theorem drained_of_drains {env env' : Env} {jid : Option String} {outcome : Except String Unit}
    {tail : List Event} (hlog : env.log = []) (hconnects : env.connects = true)
    (hdrains : Drains jid (replies env.lines.tail))
    (h : drainSession.exec answer env = some (outcome, env')) : Drained jid (env'.log ++ tail) := by
  obtain ⟨after, first, found, waited, hexec, hafter, ⟨shown, hshown, hready⟩, early, gone,
    rfl, -, -, hgone⟩ := exec_drainSession hconnects hdrains
  rw [hexec] at h
  cases h
  obtain ⟨before, between, hsplit⟩ := List.append_of_mem hshown
  refine ⟨before.map .queried, shown, between.map .queried, early.map .queried, gone, tail, ?_, ?_,
    hready, hgone⟩
  · have hmap : Event.queried first :: found.map .queried =
        before.map .queried ++ .queried shown :: between.map .queried := by
      rw [← List.map_cons, hsplit, List.map_append, List.map_cons]
    rw [hafter, hlog, List.nil_append, hmap]
    simp
  · simp

/-- What a detach of a mirrored disk is to do, the daemon having the jobs `running` when it starts:
it raises, or every mirror job has been seen ready, completed and gone. -/
def NoSilentCutover (running : List Job) (result : Option (Except String Unit × Env)) : Prop :=
  match result with
  | some (.ok _, env) => ∀ j ∈ running, j.type = "mirror" → Drained j.handle env.log
  | _ => True

/-- A detach of a URI that resolves has drained the job exactly if the daemon could be reached and
its replies drain it. -/
theorem drained_iff {read : String → Option Datapath.SrMeta} {uri : String}
    {target : Datapath.Target} (hresolve : Datapath.resolve read uri = some target)
    (hmode : target.mode = "qemu") (other : Datapath.Target → Py Bool) (domain : String) {env : Env}
    (hlog : env.log = []) :
    ∃ env', (datapathDetach other read uri domain).exec answer env = some (.ok (), env') ∧
      ∀ jid, Drained jid env'.log ↔
        (env.connects = true ∧ Drains jid (replies env.lines.tail)) := by
  obtain ⟨outcome, env1, env2, hsession, hdetach, hend⟩ :=
    datapathDetach_log hresolve hmode domain env
  obtain ⟨events, hevents, -, hshape⟩ := drainSession_log hsession
  obtain ⟨tail, htail, hshort⟩ :
      ∃ tail, env2.log = env1.log ++ tail ∧ (tail = [] ∨ tail = [.stopped]) := by
    obtain h | h := hend
    · exact ⟨[], by simpa using h, .inl rfl⟩
    · exact ⟨_, h, .inr rfl⟩
  refine ⟨env2, hdetach, fun jid => ?_⟩
  rw [htail]
  constructor
  · intro hdrained
    rw [hevents, hlog, List.nil_append] at hdrained
    exact hshape.drains hshort hdrained
  · rintro ⟨hconnects, hdrains⟩
    exact drained_of_drains hlog hconnects hdrains hsession

/-- A detach in qemu mode meets its purpose exactly if its URI does not resolve, which raises, or
the daemon can be reached and its replies drain every mirror job. -/
theorem detach_drains_iff (other : Datapath.Target → Py Bool)
    (read : String → Option Datapath.SrMeta) (uri domain : String) (running : List Job) (env : Env)
    (hmode : ∀ target, Datapath.resolve read uri = some target → target.mode = "qemu") :
    NoSilentCutover running
        ((datapathDetach other read uri domain).exec answer { env with log := [] }) ↔
      (Datapath.resolve read uri = none ∨ ∀ j ∈ running, j.type = "mirror" →
        env.connects = true ∧ Drains j.handle (replies env.lines.tail)) := by
  cases hresolve : Datapath.resolve read uri with
  | none => simp [datapathDetach, hresolve, Prog.exec, NoSilentCutover]
  | some target =>
      let start : Env := { env with log := [] }
      obtain ⟨env', hdetach, hdrained⟩ :=
        drained_iff hresolve (hmode target hresolve) other domain (show start.log = [] from rfl)
      simp only [start] at hdetach hdrained
      simp only [hdetach, NoSilentCutover, hdrained, reduceCtorEq, false_or]

/-- An SR in qemu mode. -/
def qemuSr : Datapath.SrMeta := { srUuid := "sr", pool := "xen", datapath := some "qemu" }

/-- A URI of that SR. -/
theorem resolve_qemuSr : Datapath.resolve (fun _ => some qemuSr) "rbd://sr/vol" =
    some ⟨"xen", "sr", "vol", none, "qemu"⟩ := by
  decide +kernel

/-- The mirror job of the runs below. -/
def mirrorJob : Job := { type := "mirror", device := some "m_vol" }

/-- A daemon whose job is ready at the second query and gone after its completion. -/
def drainingDaemon : Env :=
  { lines := [.ret [], .ret [], .ret [mirrorJob], .event, .ret [{ mirrorJob with ready := true }],
      .ret [], .event, .ret []] }

/-- Its job is drained. -/
theorem detach_drains_ready :
    NoSilentCutover [mirrorJob]
      ((datapathDetach (fun _ => pure true) (fun _ => some qemuSr) "rbd://sr/vol" "1").exec answer
        { drainingDaemon with log := [] }) := by
  have hmode : ∀ target, Datapath.resolve (fun _ => some qemuSr) "rbd://sr/vol" = some target →
      target.mode = "qemu" := by
    intro target hresolve
    rw [resolve_qemuSr] at hresolve
    cases hresolve
    rfl
  rw [detach_drains_iff _ _ _ _ _ _ hmode]
  refine .inr fun j hj _ => ?_
  obtain rfl := List.mem_singleton.mp hj
  refine ⟨rfl, [], [mirrorJob], [[{ mirrorJob with ready := true }]], [], [[]], [], by decide,
    by decide, .inl ⟨[], _, rfl, by decide, by simp, ?_⟩, [], _, rfl, by decide, by simp, ?_⟩
  · exact ⟨_, rfl, rfl⟩
  · simp [Listed, entry]

/-- A daemon that closes the connection after it has listed the job. -/
def closingDaemon : Env := { lines := [.ret [], .ret [], .ret [mirrorJob]] }

/-- The connection closes while a mirror job copies: the detach returns, and the job was neither
ready nor completed. -/
theorem detach_loses_writes :
    ¬NoSilentCutover [mirrorJob]
      ((datapathDetach (fun _ => pure true) (fun _ => some qemuSr) "rbd://sr/vol" "1").exec answer
        closingDaemon) := by
  obtain ⟨env', hdetach, hdrained⟩ :=
    drained_iff resolve_qemuSr rfl (fun _ => pure true) "1" (show closingDaemon.log = [] from rfl)
  rw [hdetach]
  intro h
  obtain ⟨-, hdrains⟩ := (hdrained _).mp (h _ List.mem_cons_self rfl)
  obtain ⟨caps, first, found, accepted, waited, rest, hreplies, -⟩ := hdrains
  have hlength := congrArg List.length hreplies
  simp [replies, closingDaemon] at hlength

end XcpCephRbd.Qmp
