import Taramandal.Core.Text

/-! # Oversize uploads (`UploadBodyLimitMiddleware`)

The limit stands in front of any application: one that awaits messages and sends as it likes, and
returns or raises. Past the limit it is told that the client has gone, and what it still answers is
dropped for a refusal. -/
namespace Taramandal.Studio.UploadLimit

open Core.Values Core.Text Lib.Dict

inductive Message where
  | request (body : Bytes)
  | disconnect

def Message.size : Message → ℕ
  | .request body => body.length
  | .disconnect => 0

inductive Event where
  | start (status : ℕ)
  | body (content : String)

/-- An application, by what it does next. -/
inductive App where
  | receive (k : Message → App)
  | send (e : Event) (k : App)
  | returns
  | raises (error : String)

/-- What is sent and raised, and how much of the body the application was given. -/
structure Served where
  sent : List Event := []
  raised : Option String := none
  heard : ℕ := 0

/-- The application by itself; behind its last message the client is gone. -/
def App.run : App → List Message → Served
  | .receive k, inbox =>
    let m := inbox.headD .disconnect
    let r := (k m).run inbox.tail
    { r with heard := m.size + r.heard }
  | .send e k, inbox => { k.run inbox with sent := e :: (k.run inbox).sent }
  | .returns, _ => {}
  | .raises error, _ => { raised := some error }

/-- Behind `counting_receive` and `guarded_send`, and whether it was `too_large`. -/
def App.guarded (limit : ℕ) : App → List Message → ℕ → Bool → Served × Bool
  | .receive k, inbox, seen, true => (k .disconnect).guarded limit inbox seen true
  | .receive k, inbox, seen, false =>
    let m := inbox.headD .disconnect
    let seen := seen + m.size
    if limit < seen then (k .disconnect).guarded limit inbox.tail seen true
    else
      let r := (k m).guarded limit inbox.tail seen false
      ({ r.1 with heard := m.size + r.1.heard }, r.2)
  | .send e k, inbox, seen, tooLarge =>
    let r := k.guarded limit inbox seen tooLarge
    (if tooLarge then r.1 else { r.1 with sent := e :: r.1.sent }, r.2)
  | .returns, _, _, tooLarge => ({}, tooLarge)
  | .raises error, _, _, tooLarge => (if tooLarge then {} else { raised := some error }, tooLarge)

structure Scope where
  type : String
  method : String
  path : String
  headers : List (String × String)

def limitFor (limits : Dict String ℕ) (scope : Scope) : Option ℕ :=
  if scope.type = "http" ∧ scope.method = "POST" then find limits scope.path else none

/-- The `content-length`, if it is all digits; `int` reads 4300 of them at most. -/
def declared (scope : Scope) : Except String (Option ℕ) :=
  let text := (find (assignAll [] scope.headers) "content-length").getD ""
  if text = "" ∨ ¬ text.toList.all Char.isDigit then .ok none
  else if 4300 < text.length then
    .error "Exceeds the limit (4300 digits) for integer string conversion"
  else .ok ((pyInt text).map Int.toNat)

/-- `_refuse`. -/
def refuse (limit : ℕ) : List Event :=
  [.start 413, .body ("\x7b\"detail\":\"request body is over the " ++ toString limit ++
    " byte limit for this endpoint\"\x7d")]

/-- `__call__`. -/
def call (limits : Dict String ℕ) (scope : Scope) (app : App) (inbox : List Message) : Served :=
  match limitFor limits scope with
  | none => app.run inbox
  | some limit =>
    match declared scope with
    | .error error => { raised := some error }
    | .ok length =>
      if length.any (limit < ·) then { sent := refuse limit }
      else
        let r := app.guarded limit inbox 0 false
        if r.2 then { r.1 with sent := r.1.sent ++ refuse limit } else r.1

lemma guarded_tooLarge (limit : ℕ) (app : App) (inbox : List Message) (seen : ℕ) :
    app.guarded limit inbox seen true = ({}, true) := by
  induction app generalizing inbox seen with
  | receive k ih => exact ih ..
  | send e k ih => exact ih ..
  | returns => rfl
  | raises error => rfl

/-- As long as it is not too much nothing is different, and once it is nothing more comes out. -/
lemma guarded_spec {limit seen : ℕ} (app : App) (inbox : List Message) (hseen : seen ≤ limit) :
    if limit < seen + (app.run inbox).heard then
      ∃ early heard, app.guarded limit inbox seen false = (⟨early, none, heard⟩, true) ∧
        early <+: (app.run inbox).sent ∧ seen + heard ≤ limit
    else app.guarded limit inbox seen false = (app.run inbox, false) := by
  induction app generalizing inbox seen with
  | receive k ih =>
    simp only [App.run, App.guarded]
    generalize inbox.headD .disconnect = m
    by_cases hover : limit < seen + m.size
    · rw [if_pos (by omega), if_pos hover, guarded_tooLarge]
      exact ⟨[], 0, rfl, List.nil_prefix, hseen⟩
    · have h := ih m inbox.tail (not_lt.mp hover)
      rw [if_neg hover, ← Nat.add_assoc]
      split at h
      next hmore =>
        obtain ⟨early, heard, hguarded, hearly, hle⟩ := h
        rw [if_pos hmore, hguarded]
        exact ⟨early, m.size + heard, rfl, hearly, by omega⟩
      next hmore => rw [if_neg hmore, h]
  | send e k ih =>
    have h := ih inbox hseen
    simp only [App.run, App.guarded]
    split at h
    next hmore =>
      obtain ⟨early, heard, hguarded, hearly, hle⟩ := h
      rw [if_pos hmore, hguarded]
      exact ⟨e :: early, heard, rfl, List.cons_prefix_cons.mpr ⟨rfl, hearly⟩, hle⟩
    next hmore =>
      rw [if_neg hmore, h]
      rfl
  | returns => exact if_neg (not_lt.mpr hseen) ▸ rfl
  | raises error => exact if_neg (not_lt.mpr hseen) ▸ rfl

/-- An application is never given more than the limit. If that is all it would have asked for and
all that was declared, the guard is not there; else it comes out that the upload was refused, behind
what the application had sent by then. -/
theorem upload_limited {limits : Dict String ℕ} {scope : Scope} {limit : ℕ} {length : Option ℕ}
    (app : App) (inbox : List Message) (hlimit : limitFor limits scope = some limit)
    (hlength : declared scope = .ok length) :
    (call limits scope app inbox).heard ≤ limit ∧
    if length.any (limit < ·) ∨ limit < (app.run inbox).heard then
      (call limits scope app inbox).raised = none ∧ ∃ early, early <+: (app.run inbox).sent ∧
        (call limits scope app inbox).sent = early ++ refuse limit
    else call limits scope app inbox = app.run inbox := by
  have h := guarded_spec app inbox (Nat.zero_le limit)
  simp only [call, hlimit, hlength]
  by_cases hover : length.any (limit < ·) = true
  · rw [if_pos hover, if_pos (.inl hover)]
    exact ⟨Nat.zero_le _, rfl, [], List.nil_prefix, rfl⟩
  · rw [Nat.zero_add] at h
    rw [if_neg hover]
    split at h
    next hmore =>
      obtain ⟨early, heard, hguarded, hearly, hle⟩ := h
      rw [hguarded, if_pos rfl, if_pos (.inr hmore)]
      exact ⟨(Nat.zero_add heard).ge.trans hle, rfl, early, hearly, rfl⟩
    next hmore =>
      rw [h, if_neg Bool.false_ne_true, if_neg (not_or.mpr ⟨hover, hmore⟩)]
      exact ⟨not_lt.mp hmore, rfl⟩

theorem upload_limited_undeclared :
    (call [("/up", 3)] ⟨"http", "POST", "/up", []⟩ (.receive fun _ => .send (.start 200) .returns)
      [.request [1, 2, 3, 4]]).heard ≤ 3 :=
  (upload_limited _ _ rfl rfl).1

end Taramandal.Studio.UploadLimit
