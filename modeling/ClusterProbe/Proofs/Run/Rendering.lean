import ClusterProbe.Proofs.Run.Stage

/-!
# What rendering does to a world

Rendering reads one file, makes the directory for everything rendered, and writes one file. It asks
nothing of the cluster or of the service.
-/

namespace ClusterProbe

namespace World

/-- From one world to another nothing was asked of the cluster or of the service. -/
structure Quiet (w v : World) : Prop where
  calls : v.calls = w.calls
  attempted : v.attempted = w.attempted

namespace Quiet

theorem refl (w : World) : Quiet w w := ⟨rfl, rfl⟩

theorem trans {u v w : World} (h : Quiet u v) (k : Quiet v w) : Quiet u w :=
  ⟨k.calls.trans h.calls, k.attempted.trans h.attempted⟩

/-- An event that is no action and no attempt asks nothing. -/
theorem push (w : World) {e : Event} (hc : e.call? = none) (ha : e.attempt? = none) :
    Quiet w (w.push e) := by
  constructor
  · rw [calls_push, hc, Option.toList_none, List.append_nil]
  · rw [attempted_push, ha, Option.toList_none, List.append_nil]

/-- Printing asks nothing. -/
theorem print (w : World) (lines : List String) : Quiet w (w.print lines) := by
  induction lines generalizing w with
  | nil => exact refl w
  | cons line rest ih => exact (push w rfl rfl).trans (ih _)

end Quiet

end World

namespace Renderer

variable (colours : Bool) (r : Renderer)

/-- The text that a template renders to, by the files that there are. -/
def textIn (fs : FileSystem) (identifier : String) : Except Error String :=
  match fs.readText (r.home.templateFile identifier) with
  | .ok source => Template.render identifier source r.values.toJson
  | .error e => .error (.fileRead (r.home.templateFile identifier).text e.message)

/-- The text that is rendered into the file of an identifier, and the files afterwards. -/
def renderIn (r : Renderer) (fs : FileSystem) (identifier : String) :
    Except Error String × FileSystem :=
  match r.textIn fs identifier with
  | .error e => (.error e, fs)
  | .ok text =>
    match fs.makeDirs r.home.depsDir with
    | (gs, .error e) => (.error (.io e.message), gs)
    | (gs, .ok ()) =>
      match gs.writeText (r.home.renderedFile identifier) text with
      | .error e => (.error (.io e.message), gs)
      | .ok hs => (.ok text, hs)

/-- Rendering into a text leaves the world as it is. -/
theorem rehearse_renderToString (identifier : String) (w : World) :
    (r.renderToString (Rehearsal.machine colours) identifier).rehearse w =
      (r.textIn w.files identifier, w) := by
  rw [renderToString, Stage.rehearse_bind, Rehearsal.rehearse_read]
  unfold textIn
  cases w.files.readText (r.home.templateFile identifier) with
  | error e => rfl
  | ok source => exact Stage.rehearse_ofExcept _ w

/-- Rendering into a file: the text must be there, then the directory, and then the file. -/
theorem rehearse_render (identifier : String) (w : World) :
    (r.render (Rehearsal.machine colours) identifier).rehearse w =
      match r.textIn w.files identifier with
      | .error e => (.error e, w)
      | .ok text =>
        match w.files.makeDirs r.home.depsDir with
        | (fs, .error e) => (.error (.io e.message), { w with files := fs })
        | (fs, .ok ()) =>
          match fs.writeText (r.home.renderedFile identifier) text with
          | .error e => (.error (.io e.message), { w with files := fs })
          | .ok written =>
            (.ok (r.home.renderedFile identifier),
              ({ w with files := written } : World).push
                (.wrote (r.home.renderedFile identifier) text)) := by
  rw [render, Stage.rehearse_bind, rehearse_renderToString]
  cases r.textIn w.files identifier with
  | error e => rfl
  | ok text =>
    simp only [Stage.rehearse_bind, Stage.rehearse_lift, Rehearsal.run_makeDirs,
      Rehearsal.run_writeText]
    rcases w.files.makeDirs r.home.depsDir with ⟨fs, e | _⟩
    · rfl
    · simp only [Rehearsal.rehearse_done_ok]
      cases fs.writeText (r.home.renderedFile identifier) text <;> rfl

variable {colours : Bool} {r : Renderer} {identifier text : String} {fs : FileSystem}
  {w v : World}

/-- A rendering is told by the files, and changes nothing but them. One that succeeds is noted. -/
theorem rehearse_render_eq_renderIn (identifier : String) (w : World) :
    (r.render (Rehearsal.machine colours) identifier).rehearse w =
      match r.renderIn w.files identifier with
      | (.error e, fs) => (.error e, { w with files := fs })
      | (.ok text, fs) =>
        (.ok (r.home.renderedFile identifier),
          ({ w with files := fs } : World).push (.wrote (r.home.renderedFile identifier) text)) := by
  rw [rehearse_render]
  unfold renderIn
  cases r.textIn w.files identifier with
  | error e => rfl
  | ok text =>
    dsimp only
    rcases w.files.makeDirs r.home.depsDir with ⟨fs, e | _⟩
    · rfl
    · dsimp only
      cases fs.writeText (r.home.renderedFile identifier) text with
      | error e => rfl
      | ok written => rfl

/-- A text is that of a template that is there and renders. -/
theorem textIn_eq_ok_iff_render :
    r.textIn fs identifier = .ok text ↔
      ∃ source, fs.readText (r.home.templateFile identifier) = .ok source ∧
        Template.render identifier source r.values.toJson = .ok text := by
  unfold textIn
  cases fs.readText (r.home.templateFile identifier) <;> simp

/-- A rendering that succeeds gives the path of the file that its identifier stands for. -/
theorem eq_renderedFile_of_render {path : Path}
    (h : (r.render (Rehearsal.machine colours) identifier).rehearse w = (.ok path, v)) :
    path = r.home.renderedFile identifier := by
  rw [rehearse_render_eq_renderIn] at h
  split at h
  · cases h
  · cases h
    rfl

end Renderer

end ClusterProbe
