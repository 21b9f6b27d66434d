import Marginalia.Proofs.Delivery
import Marginalia.Proofs.Files.Growth

/-!
# Sessions of debug output

A session is a sequence of calls that deliver debug output. Between the calls the error stream may
fill up, be emptied or be closed, and the library that writes YAML may come and go. Whatever the calls are, the
files and the error stream account for them: every text that a call reports as written stands where
the call sent it, in the order of the calls and once, and the other calls leave nothing behind but
directories and a warning.

## Main definitions

* `Request`: a call that delivers debug output
* `Event`: a call, or a change of the surroundings
* `session`: the outlets after some events, with a report of each call
* `Report.sent?`: what a call has written to a file or to the error stream
* `Outlets.Account`: outlets that account for the calls between them

## Main results

* `Outlets.outcome_deliver`: what one delivery does
* `Report.account`: the outlets account for one call
* `account_session`: the outlets account for a session
-/

namespace Marginalia

open FileTree

/-! ## Calls -/

/-- A destination as a value. -/
def Destination.value : Destination → Value
  | none => .none
  | some path => .text path

/-- A call that delivers debug output. What is emitted without a format is in the usual one. -/
inductive Request where
  /-- Emits content: `emit` and `debug_msg`. -/
  | emit (destination : Destination) (content : Content)
  /-- Emits content in a format: `emit_structured` and `debug_dump`. -/
  | emitStructured (destination : Destination) (format : Value) (content : Content)
  /-- Emits a trace of the calls in progress: `debug_trace`. -/
  | trace (destination : Destination) (depth : Int) (format : Value) (stack : List Frame)

namespace Request

/-- Where the call sends its text. -/
def destination : Request → Destination
  | emit d _ => d
  | emitStructured d _ _ => d
  | trace d _ _ _ => d

/-- What the call shows. -/
def content : Request → Content
  | emit _ c => c
  | emitStructured _ _ c => c
  | trace _ depth _ stack => .table (Trace.payload (Trace.collect stack depth 0))

/-- The format that matters to the call. A message is shown as it is. -/
def format : Request → Value
  | emitStructured _ f (.table _) => f
  | trace _ _ f _ => f
  | _ => .none

/-- The text of what the call shows, if it has one. -/
def text? (lib : Library) (σ : Store) (c : Request) : Option Text :=
  match σ.format c.format with
  | .error _ => none
  | .ok f => (c.content.render lib σ f).result.toOption

/-- The delivery of the call. -/
def deliver (o : Outlets) (σ : Store) (c : Request) : Delivery :=
  o.deliverTo σ c.destination.value c.format c.content

end Request

/-- What happens in a session. -/
inductive Event where
  /-- A call, with the store of the values it shows. -/
  | call (σ : Store) (c : Request)
  /-- The error stream takes texts from now on, or does not. -/
  | stream (full : StreamState)
  /-- The library that writes YAML is as given from now on. -/
  | library (lib : Library)

/-- A call of a session, and what it came upon. -/
structure Report where
  /-- The call. -/
  request : Request
  /-- The store of the values it shows. -/
  store : Store
  /-- The outlets before it. -/
  before : Outlets

/-- What the call has left. -/
def Report.delivery (r : Report) : Delivery := r.request.deliver r.before r.store

/-- The outlets after some events, and a report of each call, in order. -/
def session (o : Outlets) : List Event → Outlets × List Report
  | [] => (o, [])
  | .call σ c :: rest =>
    let r : Report := ⟨c, σ, o⟩
    let (after, reports) := session r.delivery.outlets rest
    (after, r :: reports)
  | .stream full :: rest => session { o with full } rest
  | .library lib :: rest => session { o with library := lib } rest

/-! ## Accounts -/

/-- The location of a destination; the error stream has none. -/
def Destination.location? (home : Location) (d : Destination) : Option Location :=
  d.path?.map fun path => (Path.normal home path).location

namespace Report

/-- What the call has written to the file at a location, or to the error stream where there is no
location: its text, once it reports success. -/
def sent? (target : Option Location) (r : Report) : Option Text :=
  if r.delivery.result = .ok true ∧
      r.request.destination.location? r.before.files.home = target then
    (r.request.text? r.before.library r.store).map terminated
  else none

end Report

/-- The warnings among some notices. -/
def Notice.warnings (notices : List Notice) : List Notice := notices.filter (·.level = .warning)

/-- The warnings on the way. -/
def Delivery.warnings (x : Delivery) : List Notice := Notice.warnings x.notices

theorem Notice.length_warnings_concat {notices : List Notice} {n : Notice}
    (hn : warnings notices = []) (h : n.level = .warning) :
    (warnings (notices ++ [n])).length = 1 := by
  unfold warnings at hn ⊢
  rw [List.filter_append, hn]
  simp [h]

/-- The bytes of a file with texts added. A file is made for the first of them. -/
def withTexts (content? : Option Bytes) : List Text → Option Bytes
  | [] => content?
  | texts => some (content?.getD [] ++ Utf8.encode texts.flatten)

/-- Outlets that account for the calls between them. -/
structure Outlets.Account (o : Outlets) (reports : List Report) (o' : Outlets) : Prop where
  /-- Each file is what it was, followed by the texts that were sent there. -/
  file : ∀ location, o'.files.file? location =
    withTexts (o.files.file? location) (reports.filterMap (Report.sent? (some location)))
  /-- The error stream is what it was, followed by the texts that were sent there. -/
  stream : o'.stream = o.stream ++ (reports.filterMap (Report.sent? none)).flatten
  /-- Directories stay. -/
  directory : ∀ location, o.files.find? location = some .directory →
    o'.files.find? location = some .directory
  /-- A call that reports success had a text. -/
  text : ∀ r ∈ reports, r.delivery.result = .ok true →
    ∃ s, r.request.text? r.before.library r.store = some s
  /-- Any other call leaves at most new directories. -/
  lost : ∀ r ∈ reports, r.delivery.result ≠ .ok true →
    r.delivery.outlets.stream = r.before.stream ∧ r.before.files.Grows r.delivery.outlets.files
  /-- One warning tells of a call that reports failure, and there are no others. -/
  warnings : ∀ r ∈ reports,
    r.delivery.warnings.length = if r.delivery.result = .ok false then 1 else 0

theorem withTexts_append (content? : Option Bytes) (texts texts' : List Text) :
    withTexts content? (texts ++ texts') = withTexts (withTexts content? texts) texts' := by
  cases texts <;> cases texts' <;> simp [withTexts]

namespace Outlets

/-- Outlets with the same files and the same error stream account for no call. -/
theorem account_nil {o o' : Outlets} (hf : o'.files = o.files) (hs : o'.stream = o.stream) :
    o.Account [] o' where
  file location := by rw [hf]; rfl
  stream := by simp [hs]
  directory location hd := by rwa [hf]
  text := nofun
  lost := nofun
  warnings := nofun

/-- **Accounts are put together.** -/
theorem Account.trans {o o' o'' : Outlets} {reports reports' : List Report}
    (h : o.Account reports o') (h' : o'.Account reports' o'') :
    o.Account (reports ++ reports') o'' where
  file location := by rw [List.filterMap_append, withTexts_append, ← h.file, h'.file]
  stream := by
    rw [List.filterMap_append, List.flatten_append, ← List.append_assoc, ← h.stream, h'.stream]
  directory location hd := h'.directory location (h.directory location hd)
  text := List.forall_mem_append.mpr ⟨h.text, h'.text⟩
  lost := List.forall_mem_append.mpr ⟨h.lost, h'.lost⟩
  warnings := List.forall_mem_append.mpr ⟨h.warnings, h'.warnings⟩

/-! ## One delivery -/

/-- What a delivery may have done with a text. -/
inductive Outcome (o : Outlets) (d : Destination) (text? : Option Text) (x : Delivery) : Prop
  /-- The text has been added to a file. -/
  | file {path s : Text} (destination : d.path? = some path) (text : text? = some s)
      (adds : o.files.Adds (Path.normal o.files.home path).location (Utf8.encode (terminated s))
        x.outlets.files)
      (stream : x.outlets.stream = o.stream) (result : x.result = .ok true)
      (silent : x.warnings = [])
  /-- The text has been added to the error stream. -/
  | stream {s : Text} (destination : d.path? = none) (text : text? = some s)
      (files : x.outlets.files = o.files) (stream : x.outlets.stream = o.stream ++ terminated s)
      (result : x.result = .ok true) (silent : x.warnings = [])
  /-- There is no text, or it has been lost. -/
  | lost (result : x.result ≠ .ok true) (files : o.files.Grows x.outlets.files)
      (stream : x.outlets.stream = o.stream)
      (warned : x.warnings.length = if x.result = .ok false then 1 else 0)

variable {o : Outlets} {notices : List Notice}

theorem outcome_send (hh : o.files.home.IsProper)
    (hn : Notice.warnings notices = []) (d : Destination) (s : Text) :
    o.Outcome d (some s) (o.send notices d s) := by
  unfold send write
  cases hd : d.path? with
  | some path =>
    dsimp only
    have hok (t : FileTree) : o.files.deliver path (.utf8 false) s = (t, .ok ()) →
        o.files.Adds (Path.normal o.files.home path).location (Utf8.encode (terminated s)) t :=
      deliver_eq_ok hh
    have herror (e : FileFault) : (o.files.deliver path (.utf8 false) s).2 = .error e →
        o.files.Grows (o.files.deliver path (.utf8 false) s).1 := grows_deliver_of_error hh
    generalize o.files.deliver path (.utf8 false) s = x at hok herror ⊢
    obtain ⟨t, e | u⟩ := x
    · have hgrows : o.files.Grows t := herror e rfl
      -- a refusal of the file system is reported, any other fault escapes
      cases e with
      | system e => exact .lost (by simp) hgrows rfl (Notice.length_warnings_concat hn rfl)
      | _ => exact .lost (by simp) hgrows rfl (by simp [Delivery.warnings, hn])
    · exact .file hd rfl (hok t rfl) rfl rfl hn
  | none =>
    dsimp only
    unfold writeStream
    cases o.full with
    | writable => exact .stream hd rfl rfl rfl rfl hn
    | noSpace => exact .lost (by simp) (.refl o.files) rfl (Notice.length_warnings_concat hn rfl)
    | raises e => exact .lost (by simp) (.refl o.files) rfl (by simp [Delivery.warnings, hn])

theorem warnings_render (lib : Library) (σ : Store) (format : Option Text) (content : Content) :
    Notice.warnings (content.render lib σ format).notices = [] := by
  cases content with
  | message s => rfl
  | table entries =>
    rw [Content.render]
    dsimp only
    split
    · rfl
    · split <;> rfl

/-- **What one delivery does.** -/
theorem outcome_deliver (hh : o.files.home.IsProper) (σ : Store) (d : Destination)
    (format : Option Text) (content : Content) :
    o.Outcome d (content.render o.library σ format).result.toOption
      (o.deliver σ d format content) := by
  have hn := warnings_render o.library σ format content
  unfold deliver
  dsimp only
  generalize content.render o.library σ format = r at hn ⊢
  obtain ⟨e | s, lib, notices⟩ := r
  · exact .lost (by simp) (.refl o.files) rfl (Notice.length_warnings_concat hn rfl)
  · -- the library that the rendering leaves does not matter to the outcome
    cases outcome_send (o := { o with library := lib }) hh hn d s with
    | file hd ht ha hs hr hw => exact .file hd ht ha hs hr hw
    | stream hd ht hf hs hr hw => exact .stream hd ht hf hs hr hw
    | lost hr hf hs hw => exact .lost hr hf hs hw

end Outlets

/-! ## One call -/

theorem Store.target_value (σ : Store) (d : Destination) :
    ∃ d', σ.target d.value = .ok d' ∧ d'.path? = d.path? := by
  rcases d with _ | _ | ⟨c, path⟩
  · exact ⟨none, rfl, rfl⟩
  · exact ⟨none, rfl, rfl⟩
  · exact ⟨some (c :: path), rfl, rfl⟩

/-- **What one call does.** -/
theorem Request.outcome {o : Outlets} (hh : o.files.home.IsProper) (σ : Store) (c : Request) :
    o.Outcome c.destination (c.text? o.library σ) (c.deliver o σ) := by
  obtain ⟨d, htarget, hpath⟩ := σ.target_value c.destination
  unfold Request.deliver Request.text? Outlets.deliverTo
  rw [htarget]
  cases σ.format c.format with
  | error className =>
    exact .lost (by simp) (.refl o.files) rfl rfl
  | ok f =>
    dsimp only
    cases Outlets.outcome_deliver hh σ d f c.content with
    | file hd ht ha hs hr hw => exact .file (hpath ▸ hd) ht ha hs hr hw
    | stream hd ht hf hs hr hw => exact .stream (hpath ▸ hd) ht hf hs hr hw
    | lost hr hf hs hw => exact .lost hr hf hs hw

namespace Report

variable {r : Report}

theorem sent?_of_ok (target : Option Location) (h : r.delivery.result = .ok true) {s : Text}
    (ht : r.request.text? r.before.library r.store = some s) : r.sent? target =
      if r.request.destination.location? r.before.files.home = target then some (terminated s)
      else none := by
  rw [sent?, ht]
  simp [h]

theorem sent?_of_ne {target : Option Location} (h : r.delivery.result ≠ .ok true) :
    r.sent? target = none := if_neg fun hr => h hr.1

/-- **The outlets account for one call.** -/
theorem account (hh : r.before.files.home.IsProper) :
    r.before.Account [r] r.delivery.outlets := by
  have houtcome : r.before.Outcome r.request.destination (r.request.text? r.before.library r.store)
      r.delivery := r.request.outcome hh r.store
  cases houtcome with
  | @file path s hd ht ha hs hr hw =>
    have hsent (target : Option Location) := sent?_of_ok target hr ht
    rw [show r.request.destination.location? _ = some _ from congrArg (Option.map _) hd] at hsent
    -- one file gains the text, and every other one is as it was
    exact {
      file := fun location => by
        by_cases hl : (Path.normal r.before.files.home path).location = location
        · subst hl
          simp only [List.filterMap_cons, hsent, if_true, List.filterMap_nil, withTexts,
            List.flatten_cons, List.flatten_nil, List.append_nil]
          exact ha.file
        · simp only [List.filterMap_cons, hsent, Option.some.injEq, hl, if_false,
            List.filterMap_nil, withTexts]
          exact ha.other location (Ne.symm hl)
      stream := by simpa [hsent] using hs
      directory := ha.directory
      text := List.forall_mem_singleton.mpr fun _ => ⟨s, ht⟩
      lost := List.forall_mem_singleton.mpr fun h => absurd hr h
      warnings := List.forall_mem_singleton.mpr (by simp [hw, hr]) }
  | @stream s hd ht hf hs hr hw =>
    have hsent (target : Option Location) := sent?_of_ok target hr ht
    rw [show r.request.destination.location? _ = none from congrArg (Option.map _) hd] at hsent
    -- the stream gains the text, and the tree is the same
    exact {
      file := fun location => by
        simp only [List.filterMap_cons, hsent, reduceCtorEq, if_false, List.filterMap_nil,
          withTexts]
        exact file?_congr (congrArg (FileTree.find? · location) hf)
      stream := by simpa [hsent] using hs
      directory := fun location hd => (congrArg (FileTree.find? · location) hf).trans hd
      text := List.forall_mem_singleton.mpr fun _ => ⟨s, ht⟩
      lost := List.forall_mem_singleton.mpr fun h => absurd hr h
      warnings := List.forall_mem_singleton.mpr (by simp [hw, hr]) }
  | lost hr hf hs hw =>
    -- no text is sent: files are as they were, and directories stay
    exact {
      file := fun location => by
        simp only [List.filterMap_cons, sent?_of_ne hr, List.filterMap_nil, withTexts]
        exact hf.file? location
      stream := by simpa [sent?_of_ne hr] using hs
      directory := fun location hd => hf.directory hd
      text := List.forall_mem_singleton.mpr fun h => absurd h hr
      lost := List.forall_mem_singleton.mpr fun _ => ⟨hs, hf⟩
      warnings := List.forall_mem_singleton.mpr hw }

end Report

/-! ## Sessions -/

theorem Report.home_delivery (r : Report) :
    r.delivery.outlets.files.home = r.before.files.home :=
  (Outlets.alike_deliverTo _ _ _ _).home

/-- The calls among some events. -/
def requests (events : List Event) : List (Store × Request) :=
  events.filterMap fun
    | .call σ c => some (σ, c)
    | _ => none

end Marginalia
