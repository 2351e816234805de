import ExportBundle.Proofs.Act
import ExportBundle.Tool.Browserify
import ExportBundle.Tool.Minifier
import ExportBundle.Tool.Npm

/-! How the calls of tools fail. A tool that is absent, takes too long or ends badly gives a tool
error, which carries the words of the command and what was printed. Other failures come from what
the program does around the command: from the files it reads and writes, and from a listing that is
a document of another shape or beyond the limits of the reader. Main statements: installing,
listing, bundling and minifying fail in exactly these ways. -/

namespace ExportBundle

open Act

variable {depths : Depths} {τ σ : Type}

def World.reply (w : World τ σ) (tools : Tools τ) (c : Command) : Reply :=
  (tools c w.here w.tools w.disk).1

namespace Reply

def stdout : Reply → String
  | .finished o => o.stdout
  | _ => ""

def stderr : Reply → String
  | .finished o => o.stderr
  | _ => ""

/-- How a command ends without an exit code. -/
inductive Stops (c : Command) : Reply → Failure → Prop
  | absent : Stops c .absent (.tool (.absent c))
  | timedOut : Stops c .timedOut (.tool (.timedOut c))
  | broken (f : Disk.Fault) : Stops c (.broken f) (.disk f)

/-- How a command that has to succeed fails. -/
inductive Fails (c : Command) (r : Reply) : Failure → Prop
  | stopped {e : Failure} (h : r.Stops c e) : Fails c r e
  | failed {o : Output} (h : r = .finished o) (hcode : o.code ≠ 0) :
    Fails c r (.tool (.failed c o))

variable {c : Command} {r : Reply} {e : Failure}

theorem Fails.carried (h : r.Fails c e) :
    (∃ t, e = .tool t ∧ t.command = c.words ∧ t.stdout = r.stdout ∧ t.stderr = r.stderr) ∨
      ∃ f, r = .broken f ∧ e = .disk f := by
  cases h with
  | stopped h =>
    cases h with
    | absent => exact .inl ⟨_, rfl, rfl, rfl, rfl⟩
    | timedOut => exact .inl ⟨_, rfl, rfl, rfl, rfl⟩
    | broken f => exact .inr ⟨f, rfl, rfl⟩
  | failed h =>
    subst h
    exact .inl ⟨_, rfl, rfl, rfl, rfl⟩

end Reply

namespace Json.Value

/-- A document without a table of dependencies: it is no object, or what stands under the name is
neither void nor an object. -/
inductive Tableless : Value → Prop
  | other {v : Value} (h : v.members? = none) : Tableless v
  | dependencies {members : OrderedMap String Value} {table : Value}
    (h : members.get? "dependencies" = some table) (hvoid : table.isVoid = false)
    (htable : table.members? = none) : Tableless (.obj members)

theorem requireMembers_eq_error_iff {v : Value} {m : Misuse} :
    v.requireMembers = .error m ↔ m = .noMembers ∧ v.members? = none := by
  cases v with
  | obj members => exact ⟨nofun, fun h => nomatch h.2⟩
  | _ => exact ⟨fun h => ⟨(Except.error.inj h).symm, rfl⟩, fun h => congrArg Except.error h.1.symm⟩

theorem tableless_obj_iff {members : OrderedMap String Value} :
    Tableless (.obj members) ↔ ∃ table, members.get? "dependencies" = some table ∧
      table.isVoid = false ∧ table.members? = none := by
  constructor
  · intro h
    cases h with
    | other h => cases h
    | dependencies h hvoid htable => exact ⟨_, h, hvoid, htable⟩
  · rintro ⟨table, h, hvoid, htable⟩
    exact .dependencies h hvoid htable

end Json.Value

/-- How the text of a file cannot be read. -/
inductive Unread (d : Disk) (here : Location) (p : Path) : Failure → Prop
  | refused {f : Disk.Fault} (h : d.read here p = .error f) : Unread d here p (.disk f)
  | notText {bytes : List UInt8} {m : Text.Utf8.Malformed} (h : d.read here p = .ok bytes)
    (hbytes : Text.Utf8.decode bytes = .error m) : Unread d here p (.encoding m)

namespace Act

variable {tools : Tools τ} {c : Command} {w v : World τ σ} {e : Failure}

theorem run_eq_ok_iff {o : Output} :
    (run tools c).perform w = (.ok o, v) ↔
      w.reply tools c = .finished o ∧ v = w.afterRun tools c := by
  rw [perform_run, World.reply, Prod.mk.injEq, eq_comm (b := v)]
  cases (tools c w.here w.tools w.disk).1 <;> simp

theorem run_eq_error_iff :
    (run tools c).perform w = (.error e, v) ↔
      (w.reply tools c).Stops c e ∧ v = w.afterRun tools c := by
  rw [perform_run, World.reply, Prod.mk.injEq, eq_comm (b := v)]
  refine and_congr_left fun _ => ?_
  cases (tools c w.here w.tools w.disk).1 with
  | absent => exact ⟨fun h => by cases h; exact .absent, fun h => by cases h; rfl⟩
  | timedOut => exact ⟨fun h => by cases h; exact .timedOut, fun h => by cases h; rfl⟩
  | broken f => exact ⟨fun h => by cases h; exact .broken f, fun h => by cases h; rfl⟩
  | finished o => exact ⟨nofun, nofun⟩

theorem perform_demand (c : Command) (o : Output) (w : World τ σ) :
    (do
      if o.code ≠ 0 then fail (.tool (.failed c o))
      return o : Act τ σ Output).perform w =
      (if o.code = 0 then .ok o else .error (.tool (.failed c o)), w) := by
  by_cases hcode : o.code = 0
  · rw [if_pos hcode, if_neg (not_not.2 hcode)]
    rfl
  · rw [if_neg hcode, if_pos hcode]
    rfl

theorem runChecked_eq_ok_iff {o : Output} :
    (runChecked tools c).perform w = (.ok o, v) ↔
      w.reply tools c = .finished o ∧ o.code = 0 ∧ v = w.afterRun tools c := by
  rw [runChecked, bind_eq_ok_iff]
  constructor
  · rintro ⟨found, u, hrun, hrest⟩
    obtain ⟨hreply, rfl⟩ := run_eq_ok_iff.1 hrun
    rw [perform_demand] at hrest
    split at hrest
    · rename_i hcode
      cases hrest
      exact ⟨hreply, hcode, rfl⟩
    · cases hrest
  · rintro ⟨hreply, hcode, rfl⟩
    refine ⟨o, _, run_eq_ok_iff.2 ⟨hreply, rfl⟩, ?_⟩
    rw [perform_demand, if_pos hcode]

theorem runChecked_eq_error_iff :
    (runChecked tools c).perform w = (.error e, v) ↔
      (w.reply tools c).Fails c e ∧ v = w.afterRun tools c := by
  rw [runChecked, bind_eq_error_iff]
  constructor
  · rintro (hrun | ⟨found, u, hrun, hrest⟩)
    · obtain ⟨hstops, rfl⟩ := run_eq_error_iff.1 hrun
      exact ⟨.stopped hstops, rfl⟩
    · obtain ⟨hreply, rfl⟩ := run_eq_ok_iff.1 hrun
      rw [perform_demand] at hrest
      split at hrest
      · cases hrest
      · rename_i hcode
        cases hrest
        exact ⟨.failed hreply hcode, rfl⟩
  · rintro ⟨hfails, rfl⟩
    cases hfails with
    | stopped hstops => exact .inl (run_eq_error_iff.2 ⟨hstops, rfl⟩)
    | @failed o hreply hcode =>
      refine .inr ⟨o, _, run_eq_ok_iff.2 ⟨hreply, rfl⟩, ?_⟩
      rw [perform_demand, if_neg hcode]

theorem readText_eq_error_iff {p : Path} :
    (readText p).perform w = (.error e, v) ↔ Unread w.disk w.here p e ∧ v = w := by
  rw [perform_readText, Prod.mk.injEq, eq_comm (b := v)]
  refine and_congr_left fun _ => ⟨fun h => ?_, fun h => ?_⟩
  · split at h
    · rename_i hread
      cases h
      exact .refused hread
    · rename_i hread
      split at h
      · rename_i hbytes
        cases h
        exact .notText hread hbytes
      · cases h
  · cases h with
    | refused hread => rw [hread]
    | notText hread hbytes => simp only [hread, hbytes]

end Act

variable {tools : Tools τ} {w v : World τ σ} {e : Failure}

namespace Npm

variable {n : Npm} {packages : List String} {directory : Path}

theorem install_eq_error_iff :
    (n.install tools packages directory).perform w = (.error e, v) ↔ packages ≠ [] ∧
      (w.reply tools (n.installCommand packages directory)).Fails
        (n.installCommand packages directory) e ∧
      v = w.afterRun tools (n.installCommand packages directory) := by
  rw [install]
  by_cases hpackages : packages = []
  · subst hpackages
    exact ⟨nofun, fun h => absurd rfl h.1⟩
  · rw [if_neg (by simpa using hpackages), bind_eq_error_iff, runChecked_eq_error_iff]
    constructor
    · rintro (hfails | ⟨o, u, _, hlast⟩)
      · exact ⟨hpackages, hfails⟩
      · cases hlast
    · exact fun h => .inl h.2

def listing (o : Output) : List Char :=
  (if o.stdout.isEmpty then "\x7b\x7d" else o.stdout).toList

/-- How what was printed is no listing. -/
inductive Unlisted [Depths] (c : Command) (directory : Path) (o : Output) : Failure → Prop
  | malformed {fault : Json.Fault} {line column offset : Nat}
    (h : Json.load (listing o) = .error (.malformed fault line column offset)) :
    Unlisted c directory o (.tool (.unreadableListing c directory o))
  | numberTooLong {digits : Nat} (h : Json.load (listing o) = .error (.numberTooLong digits)) :
    Unlisted c directory o (.document (.numberTooLong digits))
  | tooDeep (h : Json.load (listing o) = .error .tooDeep) :
    Unlisted c directory o (.document .tooDeep)
  | misuse {v : Json.Value} {m : Json.Misuse} (h : Json.load (listing o) = .ok v)
    (hlisted : listed v = .error m) : Unlisted c directory o (.misuse m)

theorem listed_eq_error_iff {v : Json.Value} {m : Json.Misuse} :
    listed v = .error m ↔ m = .noMembers ∧ v.Tableless := by
  cases v with
  | obj members =>
    have hlisted : listed (.obj members) =
        if ((OrderedMap.get? members "dependencies").getD .null).isVoid then .ok []
        else ((OrderedMap.get? members "dependencies").getD .null).requireMembers >>=
          fun table => .ok table.keys := rfl
    rw [hlisted, Json.Value.tableless_obj_iff]
    cases htable : OrderedMap.get? members "dependencies" with
    | none => simp [Json.Value.isVoid]
    | some table =>
      rw [Option.getD_some]
      cases hvoid : table.isVoid with
      | true => simp [hvoid]
      | false =>
        have hkeys (x : Except Json.Misuse (OrderedMap String Json.Value)) :
            (x >>= fun table => .ok table.keys) = .error m ↔ x = .error m := by
          cases x <;> simp [bind, Except.bind]
        simp [hkeys, Json.Value.requireMembers_eq_error_iff, hvoid]
  | _ =>
    refine ⟨fun h => ?_, fun h => ?_⟩
    · cases h
      exact ⟨rfl, .other rfl⟩
    · rw [h.1]
      rfl

example : listed (.arr []) = .error .noMembers := rfl

theorem list_eq_error_iff :
    (n.list tools directory).perform w = (.error e, v) ↔
      ((w.reply tools (n.listCommand directory)).Stops (n.listCommand directory) e ∨
        ∃ o, w.reply tools (n.listCommand directory) = .finished o ∧
          Unlisted (n.listCommand directory) directory o e) ∧
      v = w.afterRun tools (n.listCommand directory) := by
  have hlisting (o : Output) :
      (if o.stdout.isEmpty then "\x7b\x7d" else o.stdout).toList = listing o := rfl
  rw [list, bind_eq_error_iff]
  constructor
  · rintro (hrun | ⟨o, u, hrun, hrest⟩)
    · obtain ⟨hstops, rfl⟩ := run_eq_error_iff.1 hrun
      exact ⟨.inl hstops, rfl⟩
    · obtain ⟨hreply, rfl⟩ := run_eq_ok_iff.1 hrun
      suffices hread : Unlisted (n.listCommand directory) directory o e ∧
          v = w.afterRun tools (n.listCommand directory) from ⟨.inr ⟨o, hreply, hread.1⟩, hread.2⟩
      simp only [hlisting] at hrest
      split at hrest
      · rename_i hload
        cases hrest
        exact ⟨.malformed hload, rfl⟩
      · rename_i r hmalformed hload
        cases hrest
        cases r with
        | malformed => exact absurd rfl (hmalformed _ _ _ _)
        | numberTooLong => exact ⟨.numberTooLong hload, rfl⟩
        | tooDeep => exact ⟨.tooDeep hload, rfl⟩
      · rename_i found hload
        split at hrest
        · cases hrest
        · rename_i m hlisted
          cases hrest
          exact ⟨.misuse hload hlisted, rfl⟩
  · rintro ⟨hstops | ⟨o, hreply, hunlisted⟩, rfl⟩
    · exact .inl (run_eq_error_iff.2 ⟨hstops, rfl⟩)
    · refine .inr ⟨o, _, run_eq_ok_iff.2 ⟨hreply, rfl⟩, ?_⟩
      cases hunlisted with
      | misuse hload hlisted =>
        simp only [hlisting, hload, hlisted]
        rfl
      | malformed hload | numberTooLong hload | tooDeep hload =>
        simp only [hlisting, hload]
        rfl

end Npm

namespace Browserify

variable {b : Browserify} {entries : List Path} {externals : List String} {out : Path}

def command (b : Browserify) (entries : List Path) (externals : List String) (out : Path) :
    Command :=
  ⟨words b.runner entries externals out, some (b.directory.getD out.parent), b.timeout⟩

theorem bundle_eq_error_iff :
    (b.bundle tools entries externals out).perform w = (.error e, v) ↔
      ((w.reply tools (b.command entries externals out)).Fails (b.command entries externals out) e ∨
        ∃ o, w.reply tools (b.command entries externals out) = .finished o ∧ o.code = 0 ∧
          Unread (w.afterRun tools (b.command entries externals out)).disk w.here out e) ∧
      v = w.afterRun tools (b.command entries externals out) := by
  rw [bundle, bind_eq_error_iff]
  constructor
  · rintro (hrun | ⟨o, u, hrun, hrest⟩)
    · obtain ⟨hfails, rfl⟩ := runChecked_eq_error_iff.1 hrun
      exact ⟨.inl hfails, rfl⟩
    · obtain ⟨hreply, hcode, rfl⟩ := runChecked_eq_ok_iff.1 hrun
      rcases bind_eq_error_iff.1 hrest with hread | ⟨_, _, _, hlast⟩
      · obtain ⟨hunread, rfl⟩ := readText_eq_error_iff.1 hread
        exact ⟨.inr ⟨o, hreply, hcode, hunread⟩, rfl⟩
      · cases hlast
  · rintro ⟨hfails | ⟨o, hreply, hcode, hunread⟩, rfl⟩
    · exact .inl (runChecked_eq_error_iff.2 ⟨hfails, rfl⟩)
    · refine .inr ⟨o, _, runChecked_eq_ok_iff.2 ⟨hreply, hcode, rfl⟩, ?_⟩
      exact bind_eq_error_iff.2 (.inl (readText_eq_error_iff.2 ⟨hunread, rfl⟩))

end Browserify

namespace Minifier

variable {m : Minifier} {directory : Path} {source : String}

def command (m : Minifier) (directory : Path) : Command :=
  ⟨words m.runner (directory.child "input.js") (directory.child "output.js"), some directory,
    m.timeout⟩

def rewrapped : Failure → Failure
  | .tool t => .tool (.minify t)
  | e => e

/-- How the minifier fails once it has its input. -/
inductive Fails (m : Minifier) (tools : Tools τ) (directory : Path) (w : World τ σ) :
    Failure → Prop
  | command {cause : Failure}
    (h : (w.reply tools (m.command directory)).Fails (m.command directory) cause) :
    Fails m tools directory w (rewrapped cause)
  | output {o : Output} {e : Failure} (h : w.reply tools (m.command directory) = .finished o)
    (hcode : o.code = 0) (hunread : Unread (w.afterRun tools (m.command directory)).disk w.here
      (directory.child "output.js") e) : Fails m tools directory w e

theorem Fails.carried (h : m.Fails tools directory w e) :
    (∃ t, e = .tool (.minify t) ∧ (ToolError.minify t).command = (m.command directory).words ∧
      (ToolError.minify t).stdout = (w.reply tools (m.command directory)).stdout ∧
      (ToolError.minify t).stderr = (w.reply tools (m.command directory)).stderr) ∨
    (∃ f, w.reply tools (m.command directory) = .broken f ∧ e = .disk f) ∨
    Unread (w.afterRun tools (m.command directory)).disk w.here (directory.child "output.js") e := by
  cases h with
  | command h =>
    rcases h.carried with ⟨t, rfl, hcarried⟩ | ⟨f, hreply, rfl⟩
    · exact .inl ⟨t, rfl, hcarried⟩
    · exact .inr (.inl ⟨f, hreply, rfl⟩)
  | output _ _ hunread => exact .inr (.inr hunread)

theorem attempted_eq_error_iff :
    (do match ← attempt (runChecked tools (m.command directory)) with
      | .ok _ => return String.ofList (← readText (directory.child "output.js"))
      | .error (.tool e) => fail (.tool (.minify e))
      | .error e => fail e : Act τ σ String).perform w = (.error e, v) ↔
      m.Fails tools directory w e ∧ v = w.afterRun tools (m.command directory) := by
  rw [perform_bind, perform_attempt]
  constructor
  · intro h
    rcases hrun : (runChecked tools (m.command directory)).perform w with ⟨cause | o, u⟩
    · rw [hrun] at h
      obtain ⟨hfails, rfl⟩ := runChecked_eq_error_iff.1 hrun
      cases cause with
      | _ =>
        cases h
        exact ⟨.command hfails, rfl⟩
    · rw [hrun] at h
      obtain ⟨hreply, hcode, rfl⟩ := runChecked_eq_ok_iff.1 hrun
      rcases bind_eq_error_iff.1 h with hread | ⟨_, _, _, hlast⟩
      · obtain ⟨hunread, rfl⟩ := readText_eq_error_iff.1 hread
        exact ⟨.output hreply hcode hunread, rfl⟩
      · cases hlast
  · rintro ⟨hfails, rfl⟩
    cases hfails with
    | @command cause h =>
      rw [runChecked_eq_error_iff.2 ⟨h, rfl⟩]
      cases cause <;> rfl
    | output h hcode hunread =>
      rw [runChecked_eq_ok_iff.2 ⟨h, hcode, rfl⟩]
      exact bind_eq_error_iff.2 (.inl (readText_eq_error_iff.2 ⟨hunread, rfl⟩))

/-- In its directory the minifier fails where it cannot write its input, and then as its command
does, or where that leaves no text. -/
theorem minifyIn_eq_error_iff :
    (m.minifyIn tools source directory).perform w = (.error e, v) ↔
      (writeText (directory.child "input.js") source).perform w = (.error e, v) ∨
      ∃ u, (writeText (directory.child "input.js") source).perform w = (.ok (), u) ∧
        m.Fails tools directory u e ∧ v = u.afterRun tools (m.command directory) := by
  rw [minifyIn, bind_eq_error_iff]
  refine or_congr_right ⟨?_, ?_⟩
  · rintro ⟨⟨⟩, u, hwrite, hrest⟩
    exact ⟨u, hwrite, attempted_eq_error_iff.1 hrest⟩
  · rintro ⟨u, hwrite, hrest⟩
    exact ⟨(), u, hwrite, attempted_eq_error_iff.2 hrest⟩

/-- The minifier fails where it gets no directory, and as it does in the directory. -/
theorem minify_eq_error_iff :
    ((m.minify tools source).perform w).1 = .error e ↔
      ((makeTemporary "anywhereify-minify-").perform w).1 = .error e ∨
      ∃ directory u, (makeTemporary "anywhereify-minify-").perform w = (.ok directory, u) ∧
        ((m.minifyIn tools source directory).perform u).1 = .error e := by
  rw [minify, perform_bind]
  rcases (makeTemporary "anywhereify-minify-").perform w with ⟨e' | directory, u⟩
  · simp
  · simp [perform_ensuring]

end Minifier

end ExportBundle
