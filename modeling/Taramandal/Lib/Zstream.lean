import Mathlib.Data.List.Infix

/-! # A compressed stream

A compressor is asked to take data in and, now and then, to push out what it holds; a
decompressor takes the stream back in slices. All that is known of the two is what a stream
that breaks off still gives (`Codec.Salvages`). One that stores the data as they are shows
that there are such (`stored`). -/
namespace Taramandal.Lib.Zstream

variable {β α γ : Type}

/-- What a compressor is asked to do before it finishes. -/
inductive Op (α : Type) where
  | put (a : α)
  | sync

def Op.map (f : α → γ) : Op α → Op γ
  | .put a => .put (f a)
  | .sync => .sync

def puts : List (Op α) → List α
  | [] => []
  | .put a :: ops => a :: puts ops
  | .sync :: ops => puts ops

lemma puts_append (ops ops' : List (Op α)) : puts (ops ++ ops') = puts ops ++ puts ops' := by
  induction ops with
  | nil => rfl
  | cons op ops ih =>
    cases op with
    | put a => exact congrArg (a :: ·) ih
    | sync => exact ih

lemma puts_map (f : α → γ) (ops : List (Op α)) : puts (ops.map (Op.map f)) = (puts ops).map f := by
  induction ops with
  | nil => rfl
  | cons op ops ih =>
    cases op with
    | put a => exact congrArg (f a :: ·) ih
    | sync => exact ih

/-- A compressor and its decompressor. -/
structure Codec (β : Type) where
  Comp : Type
  compressobj : Comp
  compress : Comp → List β → Comp × List β
  flush : Comp → Comp × List β
  finish : Comp → List β
  Dec : Type
  decompressobj : Dec
  /-- What comes out, unless the stream is damaged. -/
  decompress : Dec → List β → Option (Dec × List β)
  eof : Dec → Bool

namespace Codec

variable (c : Codec β)

def ask (s : c.Comp) : Op (List β) → c.Comp × List β
  | .put data => c.compress s data
  | .sync => c.flush s

def after (s : c.Comp) (ops : List (Op (List β))) : c.Comp :=
  ops.foldl (fun s op => (c.ask s op).1) s

def emitted (s : c.Comp) : List (Op (List β)) → List β
  | [] => []
  | op :: ops => (c.ask s op).2 ++ emitted (c.ask s op).1 ops

def stream (ops : List (Op (List β))) : List β := c.emitted c.compressobj ops

def finished (ops : List (Op (List β))) : List β :=
  c.stream ops ++ c.finish (c.after c.compressobj ops)

lemma emitted_append (s : c.Comp) (ops ops' : List (Op (List β))) :
    c.emitted s (ops ++ ops') = c.emitted s ops ++ c.emitted (c.after s ops) ops' := by
  induction ops generalizing s with
  | nil => rfl
  | cons op ops ih =>
    rw [List.cons_append, emitted, ih, emitted, List.append_assoc]
    rfl

lemma stream_concat (ops : List (Op (List β))) (op : Op (List β)) :
    c.stream (ops ++ [op]) = c.stream ops ++ (c.ask (c.after c.compressobj ops) op).2 := by
  rw [stream, emitted_append]
  simp [emitted, stream]

def inflate (d : c.Dec) : List (List β) → Option (c.Dec × List β)
  | [] => some (d, [])
  | slice :: slices => do
    let (d, out) ← c.decompress d slice
    let (d, rest) ← inflate d slices
    return (d, out ++ rest)

/-- A stream that breaks off gives, in whatever slices it is read, data that were put in from
the first on, among them all that had been put in when what came out was last pushed out; its
end is seen exactly when it is whole. -/
structure Salvages : Prop where
  inflates : ∀ (ops : List (Op (List β))) (slices : List (List β)),
    slices.flatten <+: c.finished ops →
    ∃ d out, c.inflate c.decompressobj slices = some (d, out) ∧ out <+: (puts ops).flatten ∧
      (c.eof d = true ↔ slices.flatten = c.finished ops) ∧
      (c.eof d = true → out = (puts ops).flatten) ∧
      ∀ ops₁ ops₂, ops = ops₁ ++ .sync :: ops₂ → c.stream (ops₁ ++ [.sync]) <+: slices.flatten →
        (puts ops₁).flatten <+: out
  sliced : ∀ {slices slices' : List (List β)} {d d' : c.Dec} {out out' : List β},
    slices.flatten = slices'.flatten → c.inflate c.decompressobj slices = some (d, out) →
      c.inflate c.decompressobj slices' = some (d', out') → out = out'

variable {c}

lemma inflate_append {d d' : c.Dec} {slices slices' : List (List β)} {out : List β}
    (h : c.inflate d (slices ++ slices') = some (d', out)) :
    ∃ m before behind, c.inflate d slices = some (m, before) ∧
      c.inflate m slices' = some (d', behind) ∧ out = before ++ behind := by
  induction slices generalizing d out with
  | nil => exact ⟨d, [], out, rfl, h, rfl⟩
  | cons slice slices ih =>
    obtain ⟨⟨n, one⟩, hone, h⟩ := Option.bind_eq_some_iff.mp h
    obtain ⟨⟨e, rest⟩, hrest, h⟩ := Option.bind_eq_some_iff.mp h
    obtain ⟨rfl, rfl⟩ := Prod.mk.inj (Option.some.inj h)
    obtain ⟨m, before, behind, hbefore, hbehind, rfl⟩ := ih hrest
    refine ⟨m, one ++ before, behind, ?_, hbehind, (List.append_assoc ..).symm⟩
    exact Option.bind_eq_some_iff.mpr ⟨_, hone, Option.bind_eq_some_iff.mpr ⟨_, hbefore, rfl⟩⟩

lemma Salvages.mono (h : c.Salvages) {ops : List (Op (List β))} {slices slices' : List (List β)}
    {d d' : c.Dec} {out out' : List β} (hpre : slices.flatten <+: slices'.flatten)
    (hwhole : slices'.flatten <+: c.finished ops)
    (hout : c.inflate c.decompressobj slices = some (d, out))
    (hout' : c.inflate c.decompressobj slices' = some (d', out')) : out <+: out' := by
  obtain ⟨rest, hrest⟩ := hpre
  have hflat : (slices ++ [rest]).flatten = slices'.flatten := by simpa using hrest
  obtain ⟨e, all, hall, -⟩ := h.inflates ops (slices ++ [rest]) (hflat ▸ hwhole)
  obtain ⟨m, before, behind, hbefore, -, rfl⟩ := inflate_append hall
  obtain ⟨-, rfl⟩ := Prod.mk.inj (Option.some.inj (hout.symm.trans hbefore))
  exact h.sliced hflat hall hout' ▸ List.prefix_append ..

end Codec

/-! ## Stored as they are -/

/-- Where a reader of stored data is. -/
inductive Phase where
  | mark
  | datum
  | over

/-- A `0` stands before each datum, a `1` marks a push and a `2` the end. -/
def scanOne : Phase → UInt8 → Phase × List UInt8
  | .mark, b => (if b = 0 then .datum else if b = 1 then .mark else .over, [])
  | .datum, b => (.mark, [b])
  | .over, _ => (.over, [])

def scan (phase : Phase) : List UInt8 → Phase × List UInt8
  | [] => (phase, [])
  | b :: bs =>
    ((scan (scanOne phase b).1 bs).1, (scanOne phase b).2 ++ (scan (scanOne phase b).1 bs).2)

def stored : Codec UInt8 where
  Comp := Unit
  compressobj := ()
  compress _ data := ((), data.flatMap fun b => [0, b])
  flush _ := ((), [1])
  finish _ := [2]
  Dec := Phase
  decompressobj := .mark
  decompress phase slice := some (scan phase slice)
  eof
    | .over => true
    | _ => false

lemma scan_append (phase : Phase) (bs bs' : List UInt8) : scan phase (bs ++ bs') =
      ((scan (scan phase bs).1 bs').1, (scan phase bs).2 ++ (scan (scan phase bs).1 bs').2) := by
  induction bs generalizing phase with
  | nil => rfl
  | cons b bs ih => simp only [List.cons_append, scan, ih, List.append_assoc]

lemma scan_over (bs : List UInt8) : (scan .over bs).1 = .over := by
  induction bs with
  | nil => rfl
  | cons b bs ih => exact ih

lemma scan_data (data : List UInt8) :
    scan .mark (data.flatMap fun b => [0, b]) = (.mark, data) := by
  induction data with
  | nil => rfl
  | cons b data ih => simp [List.flatMap_cons, scan, scanOne, ih]

lemma stored_inflate (phase : Phase) (slices : List (List UInt8)) :
    stored.inflate phase slices = some (scan phase slices.flatten) := by
  induction slices generalizing phase with
  | nil => rfl
  | cons slice slices ih =>
    rw [List.flatten_cons, scan_append]
    change ((stored.inflate (scan phase slice).1 slices).bind fun r =>
      some (r.1, (scan phase slice).2 ++ r.2)) = _
    rw [ih]
    rfl

lemma scan_stream (ops : List (Op (List UInt8))) :
    scan .mark (stored.stream ops) = (.mark, (puts ops).flatten) := by
  have hemitted : ∀ s, scan .mark (stored.emitted s ops) = (.mark, (puts ops).flatten) := by
    induction ops with
    | nil => exact fun _ => rfl
    | cons op ops ih =>
      intro s
      rw [Codec.emitted.eq_def, scan_append]
      cases op with
      | put data =>
        have hdata : scan .mark (stored.ask s (.put data)).2 = (.mark, data) := scan_data data
        rw [hdata, ih, puts, List.flatten_cons]
      | sync => exact congrArg (fun r : Phase × List UInt8 => (r.1, [] ++ r.2)) (ih s)
  exact hemitted ()

lemma finished_stored (ops : List (Op (List UInt8))) :
    stored.finished ops = stored.stream ops ++ [2] := rfl

lemma scan_take {bs bs' : List UInt8} (h : bs <+: bs') :
    (scan .mark bs).2 <+: (scan .mark bs').2 := by
  obtain ⟨rest, rfl⟩ := h
  rw [scan_append]
  exact List.prefix_append ..

lemma not_over {bs : List UInt8} {ops : List (Op (List UInt8))} (h : bs <+: stored.stream ops) :
    (scan .mark bs).1 ≠ .over := by
  intro hover
  obtain ⟨rest, hrest⟩ := h
  have hscan := scan_stream ops
  rw [← hrest, scan_append, hover] at hscan
  have hphase := congrArg Prod.fst hscan
  rw [scan_over] at hphase
  cases hphase

lemma eof_iff (phase : Phase) : stored.eof phase = true ↔ phase = .over := by
  cases phase <;> simp [stored]

lemma stored_salvages : stored.Salvages where
  inflates ops slices hslices := by
    have hwhole : scan .mark (stored.finished ops) = (.over, (puts ops).flatten) := by
      rw [finished_stored, scan_append, scan_stream]
      exact congrArg (Prod.mk _) (List.append_nil _)
    have heof : stored.eof (scan .mark slices.flatten).1 = true ↔
        slices.flatten = stored.finished ops := by
      rw [eof_iff]
      refine ⟨fun hover => ?_, fun h => by rw [h, hwhole]⟩
      rw [finished_stored] at hslices ⊢
      exact (List.prefix_concat_iff.mp hslices).resolve_right fun h => not_over h hover
    refine ⟨_, _, stored_inflate .mark slices, ?_, heof, fun h => ?_, ?_⟩
    · have hpre := scan_take hslices
      rwa [hwhole] at hpre
    · rw [heof.mp h, hwhole]
    · intro ops₁ ops₂ _ hsync
      have hpre := scan_take hsync
      rw [scan_stream, puts_append] at hpre
      simpa [puts] using hpre
  sliced hflat hout hout' := by
    have hscan := hout.symm.trans (stored_inflate .mark _)
    have hscan' := hout'.symm.trans (stored_inflate .mark _)
    rw [hflat] at hscan
    exact (congrArg Prod.snd (Option.some.inj hscan)).trans
      (congrArg Prod.snd (Option.some.inj hscan')).symm

end Taramandal.Lib.Zstream
