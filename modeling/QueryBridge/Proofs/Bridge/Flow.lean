import QueryBridge.Proofs.Bridge.Steps

/-!
# The way of a frame

A frame that the stream of a query has yielded is in the hand of the pump, or in
the channel, or held back, or it was taken. `Flow` says so: nothing is lost on
the way, and nothing overtakes.

* `Flow.data_prefix`, `Flow.ended`: what the frames taken are of those yielded.
* `Flow.gives`, `Flow.finishes`: frames are taken.
* `Flow.drew`, `Flow.pushed`, `Flow.finished`: the turns of the pump.
* `ReaderStatus.Fits`: no more frames wait at a reader than there is room for.
-/

namespace QueryBridge

variable {s s' : ReaderStatus} {v v' : Service} {feed : Option Nat} {Z T F fs : List Frame}
  {f : Frame}

/-! ## Runs of data -/

/-- The bytes of the data frames of a list. -/
def bytesOf (fs : List Frame) : List Bytes := fs.filterMap Frame.bytes?

theorem bytesOf_append (fs fs' : List Frame) : bytesOf (fs ++ fs') = bytesOf fs ++ bytesOf fs' :=
  List.filterMap_append

theorem bytesOf_length (hd : ∀ f ∈ fs, f.isData = true) : (bytesOf fs).length = fs.length := by
  refine List.filterMap_length_eq_length.2 fun f hf => ?_
  have := hd f hf
  cases f with
  | data c => rfl
  | finish => cases this
  | failure message => cases this

/-- A frame that is not data has no bytes. -/
theorem bytesOf_terminal (hf : f.isTerminal = true) : bytesOf [f] = [] := by
  cases f with
  | data c => cases hf
  | finish => rfl
  | failure message => rfl

theorem takeRun_append_data (hd : ∀ f ∈ fs, f.isData = true) (l : List Frame) :
    Channel.takeRun (fs ++ l) = (bytesOf fs ++ (Channel.takeRun l).1, (Channel.takeRun l).2) := by
  induction fs with
  | nil => rfl
  | cons f fs ih =>
    cases f with
    | data c =>
      rw [List.cons_append, Channel.takeRun, ih fun f hf => hd f (List.mem_cons_of_mem _ hf)]
      rfl
    | finish => cases hd _ List.mem_cons_self
    | failure message => cases hd _ List.mem_cons_self

theorem takeRun_data (hd : ∀ f ∈ fs, f.isData = true) : Channel.takeRun fs = (bytesOf fs, []) := by
  have := takeRun_append_data hd []
  rwa [List.append_nil, show Channel.takeRun [] = ([], []) from rfl, List.append_nil] at this

theorem takeRun_terminal (hf : f.isTerminal = true) (l : List Frame) :
    Channel.takeRun (f :: l) = ([], f :: l) := by
  cases f with
  | data c => cases hf
  | finish => rfl
  | failure message => rfl

/-- A list that does not only begin with data frames begins with the same ones when it goes on. -/
theorem takeRun_of_rest (hne : (Channel.takeRun F).2 ≠ []) (l : List Frame) :
    Channel.takeRun (F ++ l) = ((Channel.takeRun F).1, (Channel.takeRun F).2 ++ l) := by
  induction F with
  | nil => exact absurd rfl hne
  | cons f F ih =>
    cases f with
    | data c =>
      rw [List.cons_append, Channel.takeRun, ih hne]
      rfl
    | finish => rfl
    | failure message => rfl

theorem data_of_takeRun (hnil : (Channel.takeRun F).2 = []) : ∀ f ∈ F, f.isData = true := by
  induction F with
  | nil => nofun
  | cons f F ih =>
    cases f with
    | data c => exact List.forall_mem_cons.2 ⟨rfl, ih hnil⟩
    | finish => cases hnil
    | failure message => cases hnil

/-- A list that goes on begins with the data frames with which it began before. -/
theorem takeRun_extends (F l : List Frame) :
    (Channel.takeRun F).1 <+: (Channel.takeRun (F ++ l)).1 := by
  by_cases hnil : (Channel.takeRun F).2 = []
  · have hd := data_of_takeRun hnil
    rw [takeRun_append_data hd, takeRun_data hd]
    exact List.prefix_append _ _
  · simp [takeRun_of_rest hnil]

/-- What follows the data frames at the front of a list does not begin with one. -/
theorem takeRun_rest (l : List Frame) (c : Bytes) (rest : List Frame) :
    (Channel.takeRun l).2 ≠ .data c :: rest := by
  induction l with
  | nil => exact nofun
  | cons f l ih =>
    cases f with
    | data c' => exact ih
    | finish => exact nofun
    | failure message => exact nofun

/-! ## Streams -/

/-- The frames of a stream that are there and have not been taken off it. -/
def Service.upcoming (v : Service) : Stream → List Frame
  | .fixed frames => frames
  | .live n => ((v.feeds[n]?).map Feed.waiting).getD []

/-- Nothing more can be fed. -/
def Service.RanOut (v : Service) (feed : Option Nat) : Prop :=
  ∀ n f, feed = some n → v.feeds[n]? = some f → f.isOpen = false

/-- Apart from who waits for it, a feed is the same to both services. -/
def Service.SameFeed (feed : Option Nat) (v v' : Service) : Prop :=
  ∀ n, feed = some n → (v'.feeds[n]?).map Feed.content = (v.feeds[n]?).map Feed.content

theorem Service.SameFeed.of_feeds (hv : v'.feeds.map Feed.content = v.feeds.map Feed.content) :
    SameFeed feed v v' := fun n _ => by
  rw [← List.getElem?_map, ← List.getElem?_map, hv]

namespace Service.SameFeed

theorem upcoming (hv : SameFeed feed v v') {stream : Stream} (hs : stream.feed? = feed) :
    v'.upcoming stream = v.upcoming stream := by
  cases stream with
  | fixed frames => rfl
  | live n =>
    have := congrArg (Option.map Feed.waiting) (hv n hs.symm)
    simp only [Option.map_map] at this
    exact congrArg (Option.getD · []) this

theorem ranOut (hv : SameFeed feed v v') (h : v.RanOut feed) : v'.RanOut feed := by
  intro n f hn hf
  have := hv n hn
  rw [hf] at this
  obtain ⟨f', hf', hc⟩ := Option.map_eq_some_iff.1 this.symm
  have ho : f'.content.isOpen = f.content.isOpen := by rw [hc]
  change f'.isOpen = f.isOpen at ho
  rw [← ho]
  exact h n f' hn hf'

theorem length (hv : SameFeed feed v v') {n : Nat} (hn : feed = some n)
    (hl : n < v.feeds.length) : n < v'.feeds.length := by
  have := hv n hn
  rw [List.getElem?_eq_getElem hl] at this
  by_contra hge
  rw [List.getElem?_eq_none (Nat.not_lt.1 hge)] at this
  cases this

end Service.SameFeed

/-- A feed that has ended stays so while it changes otherwise. -/
theorem Service.RanOut.modifyFeed (hr : v.RanOut feed) (n : Nat) {g : Feed → Feed}
    (hg : ∀ x, x.isOpen = false → (g x).isOpen = false) : (v.modifyFeed n g).RanOut feed := by
  intro m x hm hx
  simp only [Service.modifyFeed, List.getElem?_modify, Option.map_eq_map,
    Option.map_eq_some_iff] at hx
  obtain ⟨y, hy, rfl⟩ := hx
  have ho := hr m y hm hy
  split
  · exact hg y ho
  · exact ho

theorem Service.SameFeed.modifyFeed (v : Service) (n : Nat) (g : Feed → Feed)
    (hn : feed ≠ some n) : v.SameFeed feed (v.modifyFeed n g) := by
  intro m hm
  simp only [Service.modifyFeed, List.getElem?_modify, Option.map_eq_map, Option.map_map]
  congr 1
  funext x
  have hne : n ≠ m := by rintro rfl; exact hn hm
  simp only [Function.comp, if_neg hne]

/-! ## Conservation -/

/-- The place of a pump: its task, the rest of its stream and the frame that it has in hand. -/
structure Pumping where
  id : TaskId
  stream : Stream
  inHand : Option Frame

/-- What a turn of a pump does: where the pump is and what it has put into the channel, before the
turn and after it, and the frame that it takes off the stream. -/
inductive Pumping.Brings :
    Option Pumping → List Frame → Option Frame → Option Pumping → List Frame → Prop
  | waits (q : Pumping) (Z : List Frame) : Brings (some q) Z none (some q) Z
  | drew {id : TaskId} {stream stream' : Stream} {f : Frame} {Z : List Frame} :
    Brings (some ⟨id, stream, none⟩) Z (some f) (some ⟨id, stream', some f⟩) Z
  | pushed {id : TaskId} {stream : Stream} {f : Frame} {Z : List Frame} :
    Brings (some ⟨id, stream, some f⟩) Z none (some ⟨id, stream, none⟩) (Z ++ [f])
  | finished {id : TaskId} {stream : Stream} {f : Frame} {Z : List Frame} :
    Brings (some ⟨id, stream, some f⟩) Z none none (Z ++ [f])
  | stopped (q : Pumping) (Z : List Frame) : Brings (some q) Z none none Z

/-- Of the frames `F` that the stream of a reader has yielded, `Z` have been put into the
channel, and `T` of these have been taken off the reader. The pump puts in nothing after the
first frame that is not data. If the stream runs out without one, it makes one. -/
structure Flow (s : ReaderStatus) (v : Service) (feed : Option Nat) (p : Option Pumping)
    (Z T F : List Frame) : Prop where
  taken : T <+: Z
  active : s.state = .active → s.isReceiving = true ∧ Z = T ++ s.contents
  exhausted : s.state = .exhausted →
    s.isReceiving = false ∧ s.contents = [] ∧ T.getLast? = some .finish
  exists_feed : ∀ n, feed = some n → n < v.feeds.length
  pumping : ∀ q, p = some q → q.stream.feed? = feed ∧ (∀ f ∈ Z, f.isData = true) ∧
    (Z ++ q.inHand.toList ++ v.upcoming q.stream = F ∨
      q.inHand = some .finish ∧ Z = F ∧ v.RanOut feed)
  pumped : p = none → (∀ f ∈ Z.dropLast, f.isData = true) ∧
    (Z <+: F ∨ Z = F ++ [.finish] ∧ v.RanOut feed)

namespace Flow

variable {p : Option Pumping}

/-- Only the last frame that is put into the channel may be other than data. -/
theorem data (hf : Flow s v feed p Z T F) : ∀ f ∈ Z.dropLast, f.isData = true := by
  cases p with
  | none => exact (hf.pumped rfl).1
  | some q => exact fun f hm => (hf.pumping q rfl).2.1 f ((List.dropLast_sublist Z).subset hm)

/-- A frame that was taken and is not data is the last one put into the channel. -/
theorem last (hf : Flow s v feed p Z T F) (hl : T.getLast? = some f)
    (ht : f.isTerminal = true) : p = none ∧ Z = T ∧ Z = Z.dropLast ++ [f] := by
  have hmem := List.mem_of_getLast? hl
  have hnd : ¬ f.isData = true := by simpa [Frame.isTerminal] using ht
  have hZ : Z = T := by
    obtain ⟨rest, hr⟩ := hf.taken
    cases rest with
    | nil => rw [← hr, List.append_nil]
    | cons x rest =>
      -- something behind it would make it data
      refine absurd (hf.data f ?_) hnd
      rw [← hr, List.dropLast_append_cons]
      exact List.mem_append_left _ hmem
  have hne : Z ≠ [] := by rintro rfl; rw [← hZ] at hmem; cases hmem
  refine ⟨?_, hZ, ?_⟩
  · cases p with
    | none => rfl
    | some q => exact absurd ((hf.pumping q rfl).2.1 f (hZ ▸ hmem)) hnd
  · rw [← hZ, List.getLast?_eq_some_getLast hne, Option.some.injEq] at hl
    rw [← hl, List.dropLast_append_getLast hne]

/-- **What was taken comes first** among the data that the stream yields before
its first other frame. -/
theorem data_prefix (hf : Flow s v feed p Z T F) : bytesOf T <+: (Channel.takeRun F).1 := by
  refine (hf.taken.filterMap _).trans ?_
  show bytesOf Z <+: (Channel.takeRun F).1
  -- the frames up to the last one are data
  have key : Z <+: F → bytesOf Z <+: (Channel.takeRun F).1 := by
    rintro ⟨rest, rfl⟩
    by_cases hne : Z = []
    · rw [hne]; exact List.nil_prefix
    · rw [← List.dropLast_append_getLast hne, List.append_assoc, takeRun_append_data hf.data,
        bytesOf_append]
      refine (List.prefix_append_right_inj _).2 ?_
      cases hl : Z.getLast hne with
      | data c => exact (List.prefix_append_right_inj [c]).2 List.nil_prefix
      | finish => exact List.nil_prefix
      | failure message => exact List.nil_prefix
  cases p with
  | some q =>
    rcases (hf.pumping q rfl).2.2 with hF | ⟨-, hF, -⟩
    · exact key ⟨_, by rw [← hF, List.append_assoc]⟩
    · exact key (hF ▸ List.prefix_rfl)
  | none =>
    obtain ⟨hd, hF | ⟨rfl, -⟩⟩ := hf.pumped rfl
    · exact key hF
    -- the stream has run out, and its end was made up
    · rw [List.dropLast_concat] at hd
      have hall : bytesOf (F ++ [.finish]) = (Channel.takeRun F).1 := by
        rw [takeRun_data hd, bytesOf_append, bytesOf_terminal rfl, List.append_nil]
      exact hall ▸ List.prefix_rfl

/-- **Where a frame was taken that is not data**, all data before it was taken,
and it is the first such frame of the stream. Or the stream has run out without one. -/
theorem ended (hf : Flow s v feed p Z T F) (hl : T.getLast? = some f) (ht : f.isTerminal = true) :
    bytesOf T = (Channel.takeRun F).1 ∧ ((Channel.takeRun F).2.head? = some f ∨
      f = .finish ∧ (Channel.takeRun F).2 = [] ∧ v.RanOut feed) := by
  obtain ⟨rfl, rfl, hZ⟩ := hf.last hl ht
  obtain ⟨hd, hF⟩ := hf.pumped rfl
  rcases hF with ⟨rest, rfl⟩ | ⟨hF, hr⟩
  -- the stream has yielded it
  · have hrun : Channel.takeRun (Z ++ rest) = (bytesOf Z.dropLast, f :: rest) := by
      rw [hZ, List.append_assoc, List.dropLast_concat, takeRun_append_data hd,
        List.singleton_append, takeRun_terminal ht, List.append_nil]
    rw [hrun]
    refine ⟨?_, .inl rfl⟩
    rw [hZ, bytesOf_append, bytesOf_terminal ht, List.append_nil, List.dropLast_concat]
  -- the pump has made it
  · have hff : f = .finish := by
      rw [hF, List.getLast?_concat] at hl
      exact (Option.some.inj hl).symm
    rw [hF, List.dropLast_concat] at hd
    rw [takeRun_data hd, hF, bytesOf_append, bytesOf_terminal rfl, List.append_nil]
    exact ⟨rfl, .inr ⟨hff, rfl, hr⟩⟩

/-- **A frame that is next and is not data** is the first such frame of the stream, and all data
before it was taken. Or the stream has run out without one. -/
theorem ended_next (hf : Flow s v feed p Z T F) (ha : s.state = .active) {rest : List Frame}
    (hc : s.contents = f :: rest) (ht : f.isTerminal = true) :
    bytesOf T = (Channel.takeRun F).1 ∧ ((Channel.takeRun F).2.head? = some f ∨
      f = .finish ∧ (Channel.takeRun F).2 = [] ∧ v.RanOut feed) := by
  obtain ⟨-, hZ⟩ := hf.active ha
  have htaken : T ++ [f] <+: Z := by
    rw [hZ, hc]
    exact (List.prefix_append_right_inj T).2 (List.prefix_append [f] rest)
  -- as if it had been taken, and the reader closed then
  have hclosed : Flow { s with state := .closed } v feed p Z (T ++ [f]) F :=
    { hf with taken := htaken, active := nofun, exhausted := nofun }
  have hended := hclosed.ended List.getLast?_concat ht
  rwa [bytesOf_append, bytesOf_terminal ht, List.append_nil] at hended

/-! ## Changes on the way -/

/-- Another service, to which the feed is the same. -/
theorem service (hf : Flow s v feed p Z T F) (hv : v.SameFeed feed v') :
    Flow s v' feed p Z T F where
  taken := hf.taken
  active := hf.active
  exhausted := hf.exhausted
  exists_feed n hn := hv.length hn (hf.exists_feed n hn)
  pumping q hq := by
    obtain ⟨h1, h2, h3⟩ := hf.pumping q hq
    refine ⟨h1, h2, h3.imp (fun h => ?_) fun h => ⟨h.1, h.2.1, hv.ranOut h.2.2⟩⟩
    rw [hv.upcoming h1]
    exact h
  pumped hp := ⟨(hf.pumped hp).1, (hf.pumped hp).2.imp_right fun h => ⟨h.1, hv.ranOut h.2⟩⟩

/-- No frame moves. -/
theorem status (hf : Flow s v feed p Z T F) (hst : s'.state = s.state)
    (hrec : s'.isReceiving = s.isReceiving) (hc : s'.contents = s.contents) :
    Flow s' v feed p Z T F :=
  { hf with
    active := fun hs => by rw [hrec, hc]; exact hf.active (hst ▸ hs)
    exhausted := fun hs => by rw [hrec, hc]; exact hf.exhausted (hst ▸ hs) }

/-- The reader is closed. -/
theorem closed (hf : Flow s v feed p Z T F) (hs : s'.state = .closed) :
    Flow s' v feed p Z T F :=
  { hf with
    active := fun ha => by rw [hs] at ha; cases ha
    exhausted := fun he => by rw [hs] at he; cases he }

/-- Frames are taken. -/
theorem gives (hf : Flow s v feed p Z T F) (hs : s.state ≠ .closed) (hg : s.Gives s' fs) :
    Flow s' v feed p Z (T ++ fs) F := by
  cases hst : s.state with
  | closed => exact absurd hst hs
  | active =>
    obtain ⟨hrec, hZ⟩ := hf.active hst
    rw [hg.contents, ← List.append_assoc] at hZ
    exact { hf with
      taken := ⟨_, hZ.symm⟩
      active := fun _ => ⟨hg.isReceiving.trans hrec, hZ⟩
      exhausted := fun he => by rw [hg.state, hst] at he; cases he }
  | exhausted =>
    -- nothing is there any more, so nothing is what was taken
    obtain ⟨hrec, hc, hl⟩ := hf.exhausted hst
    obtain ⟨rfl, hc'⟩ := List.append_eq_nil_iff.1 (hg.contents.symm.trans hc)
    rw [List.append_nil]
    exact { hf with
      active := fun ha => by rw [hg.state, hst] at ha; cases ha
      exhausted := fun _ => ⟨hg.isReceiving.trans hrec, hc', hl⟩ }

/-- There is nothing left to take after the end. -/
theorem spent_contents (hc : s.contents = []) : (Registry.spent s).contents = [] := by
  have hheld : s.held.toList = [] := (List.append_eq_nil_iff.1 hc).1
  show s.held.toList ++ [] = []
  rw [hheld]
  rfl

/-- The end of the stream is taken. -/
theorem finishes (hf : Flow s v feed p Z T F) (hs : s.state ≠ .closed)
    (hg : s.Gives s' (fs ++ [.finish])) :
    Flow (Registry.spent s') v feed p Z (T ++ (fs ++ [.finish])) F := by
  have h1 := hf.gives hs hg
  have hl : (T ++ (fs ++ [Frame.finish])).getLast? = some .finish := by
    rw [← List.append_assoc, List.getLast?_concat]
  obtain ⟨-, hZ, -⟩ := h1.last hl rfl
  have hst : (Registry.spent s').state = .exhausted := by
    unfold Registry.spent
    dsimp only
    split
    · rfl
    · rename_i hna
      rw [hg.state] at hna ⊢
      cases hst : s.state with
      | active => exact absurd hst hna
      | exhausted => rfl
      | closed => exact absurd hst hs
  -- nothing is behind the end
  have hc : s'.contents = [] := by
    cases hst : s.state with
    | closed => exact absurd hst hs
    | active =>
      obtain ⟨-, hA⟩ := h1.active (hg.state.trans hst)
      rw [hZ] at hA
      exact List.self_eq_append_right.1 hA
    | exhausted => exact (h1.exhausted (hg.state.trans hst)).2.1
  refine { h1 with
    active := fun ha => by rw [hst] at ha; cases ha
    exhausted := fun _ => ⟨rfl, spent_contents hc, hl⟩ }

/-- The end of the stream was taken before. -/
theorem finishesAgain (hf : Flow s v feed p Z T F) (hs : s.state = .exhausted) :
    Flow (Registry.spent s) v feed p Z T F := by
  obtain ⟨hrec, hc, -⟩ := hf.exhausted hs
  refine hf.status ?_ hrec.symm ?_
  · unfold Registry.spent
    rw [hs]
    rfl
  · rw [hc, spent_contents hc]

/-- When the pump is over, only what has run out has to stay so. -/
theorem withoutPump (hf : Flow s v feed none Z T F) (hl : v.feeds.length ≤ v'.feeds.length)
    (hr : v.RanOut feed → v'.RanOut feed) : Flow s v' feed none Z T F :=
  { hf with
    exists_feed := fun n hn => Nat.lt_of_lt_of_le (hf.exists_feed n hn) hl
    pumping := nofun
    pumped := fun hp => ⟨(hf.pumped hp).1, (hf.pumped hp).2.imp_right fun h => ⟨h.1, hr h.2⟩⟩ }

/-- A feed changes, but not in what waits there. -/
theorem modifyFeed (hf : Flow s v feed p Z T F) (n : Nat) {g : Feed → Feed}
    (hw : ∀ x, (g x).waiting = x.waiting) (hg : ∀ x, x.isOpen = false → (g x).isOpen = false) :
    Flow s (v.modifyFeed n g) feed p Z T F := by
  have hup : ∀ stream, (v.modifyFeed n g).upcoming stream = v.upcoming stream := by
    intro stream
    cases stream with
    | fixed frames => rfl
    | live m =>
      simp only [Service.upcoming, Service.modifyFeed, List.getElem?_modify, Option.map_eq_map,
        Option.map_map]
      congr 2
      funext x
      simp only [Function.comp]
      split
      · exact hw x
      · rfl
  refine { hf with
    exists_feed := fun m hm =>
      Nat.lt_of_lt_of_eq (hf.exists_feed m hm) (List.length_modify _ _ _).symm
    pumping := fun q hq => ?_
    pumped := fun hp => ⟨(hf.pumped hp).1,
      (hf.pumped hp).2.imp_right fun h => ⟨h.1, h.2.modifyFeed n hg⟩⟩ }
  obtain ⟨h1, h2, h3⟩ := hf.pumping q hq
  rw [hup]
  exact ⟨h1, h2, h3.imp_right fun h => ⟨h.1, h.2.1, h.2.2.modifyFeed n hg⟩⟩

/-- One more frame is fed. -/
theorem fed (hf : Flow s v feed p Z T F) {n : Nat} {x : Feed} (hn : feed = some n)
    (hx : v.feeds[n]? = some x) (ho : x.isOpen = true) (f : Frame) :
    Flow s (v.modifyFeed n fun y => { y with waiting := y.waiting ++ [f], waiter := none })
      feed p Z T (F ++ [f]) := by
  -- what has run out is not fed
  have hr : ¬ v.RanOut feed := fun hr => by
    have := hr n x hn hx
    rw [ho] at this
    cases this
  refine { hf with
    exists_feed := fun m hm =>
      Nat.lt_of_lt_of_eq (hf.exists_feed m hm) (List.length_modify _ _ _).symm
    pumping := fun q hq => ?_
    pumped := fun hp => ⟨(hf.pumped hp).1, .inl ?_⟩ }
  · obtain ⟨h1, h2, h3 | ⟨-, -, h3⟩⟩ := hf.pumping q hq
    · refine ⟨h1, h2, .inl ?_⟩
      cases hs : q.stream with
      | fixed frames => rw [hs, hn] at h1; cases h1
      | live m =>
        rw [hs, hn] at h1
        obtain rfl : m = n := Option.some.inj h1
        rw [← h3, hs]
        simp [Service.upcoming, Service.modifyFeed, hx]
    · exact absurd h3 hr
  · rcases (hf.pumped hp).2 with h1 | ⟨-, h1⟩
    · exact h1.trans (List.prefix_append F [f])
    · exact absurd h1 hr

/-! ## Turns of the pump -/

variable {id : TaskId} {stream stream' : Stream}

/-- The pump takes a frame off the stream. -/
theorem drew (hf : Flow s v feed (some ⟨id, stream, none⟩) Z T F)
    (hn : v.nextFrame? stream = some (f, stream', v')) :
    Flow s v' feed (some ⟨id, stream', some f⟩) Z T F := by
  obtain ⟨hfeed, hd, hF⟩ := hf.pumping _ rfl
  obtain ⟨-, hl, hfeed'⟩ := Service.nextFrame?_feeds hn
  have hF : Z ++ v.upcoming stream = F := by simpa using hF
  refine { hf with
    exists_feed := fun n hx => by rw [hl]; exact hf.exists_feed n hx
    pumping := fun q hq => ?_
    pumped := nofun }
  obtain rfl := Option.some.inj hq
  refine ⟨hfeed'.trans hfeed, hd, ?_⟩
  show Z ++ [f] ++ v'.upcoming stream' = F ∨ some f = some Frame.finish ∧ Z = F ∧ v'.RanOut feed
  rw [← hF, List.append_assoc]
  cases stream with
  | fixed frames =>
    have hr : v.RanOut feed := fun n x hx => by rw [← hfeed] at hx; cases hx
    cases frames with
    | nil =>
      -- a stream without an end of its own gets one
      simp only [Service.nextFrame?, Option.some.injEq, Prod.mk.injEq] at hn
      obtain ⟨rfl, rfl, rfl⟩ := hn
      exact .inr ⟨rfl, by simp [Service.upcoming], hr⟩
    | cons f' frames =>
      simp only [Service.nextFrame?, Option.some.injEq, Prod.mk.injEq] at hn
      obtain ⟨rfl, rfl, rfl⟩ := hn
      exact .inl rfl
  | live n =>
    have hlt := hf.exists_feed n hfeed.symm
    simp only [Service.nextFrame?, List.getElem?_eq_getElem hlt] at hn
    have hup : v.upcoming (.live n) = v.feeds[n].waiting := by
      simp [Service.upcoming, List.getElem?_eq_getElem hlt]
    rw [hup]
    split at hn
    -- a frame waits; the feed is empty and has ended; it is empty and may go on
    · rename_i f' rest hw
      obtain ⟨rfl, rfl, rfl⟩ := by simpa using hn
      left
      rw [hw]
      simp [Service.upcoming, Service.modifyFeed, List.getElem?_eq_getElem hlt]
    · rename_i hw
      split at hn
      · cases hn
      · rename_i ho
        obtain ⟨rfl, rfl, rfl⟩ := by simpa using hn
        refine .inr ⟨rfl, by rw [hw, List.append_nil], fun m x hm hx => ?_⟩
        obtain rfl : n = m := Option.some.inj (hfeed.trans hm)
        rw [List.getElem?_eq_getElem hlt] at hx
        obtain rfl := Option.some.inj hx
        simpa using ho

/-- A frame comes into the channel. -/
theorem takes (hf : Flow s v feed p Z T F) (hrec : s.isReceiving = true) (hg : s.Takes s' f) :
    T <+: Z ++ [f] ∧ (s'.state = .active → s'.isReceiving = true ∧ Z ++ [f] = T ++ s'.contents) ∧
      s'.state ≠ .exhausted := by
  have hc : s'.contents = s.contents ++ [f] := by
    simp [ReaderStatus.contents, hg.held, hg.isReceiving, hg.buffer, hrec]
  refine ⟨hf.taken.trans (List.prefix_append Z [f]), fun ha => ?_, fun he => ?_⟩
  · obtain ⟨h1, h2⟩ := hf.active (hg.state ▸ ha)
    exact ⟨hg.isReceiving.trans h1, by rw [hc, h2, List.append_assoc]⟩
  · have := (hf.exhausted (hg.state ▸ he)).1
    rw [hrec] at this
    cases this

/-- The pump puts data into the channel. -/
theorem pushed (hf : Flow s v feed (some ⟨id, stream, some f⟩) Z T F)
    (hrec : s.isReceiving = true) (hd : f.isTerminal = false) (hg : s.Takes s' f) :
    Flow s' v feed (some ⟨id, stream, none⟩) (Z ++ [f]) T F := by
  obtain ⟨htaken, hactive, hex⟩ := hf.takes hrec hg
  obtain ⟨hfeed, hdata, hF⟩ := hf.pumping _ rfl
  have hfd : f.isData = true := by simpa [Frame.isTerminal] using hd
  refine ⟨htaken, hactive, fun he => absurd he hex, hf.exists_feed, fun q hq => ?_, nofun⟩
  obtain rfl := Option.some.inj hq
  refine ⟨hfeed, fun x hx => ?_, .inl ?_⟩
  · rcases List.mem_append.1 hx with hx | hx
    · exact hdata x hx
    · exact List.mem_singleton.1 hx ▸ hfd
  · rcases hF with hF | ⟨hff, -⟩
    · simpa using hF
    · obtain rfl := Option.some.inj hff
      cases hfd

/-- The pump puts its last frame into the channel. -/
theorem finished (hf : Flow s v feed (some ⟨id, stream, some f⟩) Z T F)
    (hrec : s.isReceiving = true) (hg : s.Takes s' f) :
    Flow s' v feed none (Z ++ [f]) T F := by
  obtain ⟨htaken, hactive, hex⟩ := hf.takes hrec hg
  obtain ⟨-, hdata, hF⟩ := hf.pumping _ rfl
  refine ⟨htaken, hactive, fun he => absurd he hex, hf.exists_feed, nofun, fun _ => ⟨?_, ?_⟩⟩
  · rwa [List.dropLast_concat]
  · rcases hF with hF | ⟨hff, rfl, hr⟩
    · exact .inl ⟨_, hF⟩
    · obtain rfl := Option.some.inj hff
      exact .inr ⟨rfl, hr⟩

/-- The pump is over before it has put all frames into the channel. -/
theorem stopped (hf : Flow s v feed p Z T F) : Flow s v feed none Z T F := by
  cases p with
  | none => exact hf
  | some q =>
    obtain ⟨-, hdata, hF⟩ := hf.pumping q rfl
    refine { hf with
      pumping := nofun
      pumped := fun _ => ⟨fun x hx => hdata x ((List.dropLast_sublist Z).subset hx), .inl ?_⟩ }
    -- what it had in hand and what was to come is lost, but it comes last
    rcases hF with hF | ⟨-, rfl, -⟩
    · exact ⟨_, by rw [← hF, List.append_assoc]⟩
    · exact List.prefix_rfl

end Flow

/-! ## Room -/

/-- A live reader has no more frames to be taken off it than its channel has room for, and only
what is not data is held back. -/
structure ReaderStatus.Fits (s : ReaderStatus) (n : Nat) : Prop where
  capacity : s.channel.capacity = n
  contents : s.state = .active → s.contents.length ≤ n
  held : ∀ f, s.held = some f → f.isTerminal = true

namespace ReaderStatus.Fits

variable {n : Nat} {me : Option TaskId}

theorem aside (hs : s.Fits n) (hg : s.Aside me s') : s'.Fits n where
  capacity := hg.capacity.trans hs.capacity
  contents ha := by
    have := hs.contents (hg.state ▸ ha)
    simpa only [ReaderStatus.contents, hg.held, hg.isReceiving, hg.buffer] using this
  held f hf := hs.held f (hg.held ▸ hf)

/-- The reader is closed. -/
theorem closed (hs : s.Fits n) (c : Bool) :
    ReaderStatus.Fits { s with state := .closed, isCancelled := c } n :=
  ⟨hs.capacity, nofun, hs.held⟩

/-- Frames are taken, so fewer are left. -/
theorem gives (hs : s.Fits n) (hg : s.Gives s' fs) : s'.Fits n where
  capacity := hg.capacity.trans hs.capacity
  contents ha := by
    have := hs.contents (hg.state ▸ ha)
    rw [hg.contents, List.length_append] at this
    omega
  held := hg.held

/-- The end of the stream is taken. -/
theorem spent (hs : s.Fits n) : (Registry.spent s).Fits n where
  capacity := hs.capacity
  contents ha := by
    unfold Registry.spent at ha
    dsimp only at ha
    split at ha
    · cases ha
    · contradiction
  held := hs.held

/-- A frame comes into the channel. Nothing is held back while the pump is at work. -/
theorem takes {q : Pumping} (hs : s.Fits n) (hf : Flow s v feed (some q) Z T F)
    (hg : s.Takes s' f) : s'.Fits n where
  capacity := hg.capacity.trans hs.capacity
  contents ha := by
    obtain ⟨hrec, hZ⟩ := hf.active (hg.state ▸ ha)
    obtain ⟨-, hdata, -⟩ := hf.pumping q rfl
    have hroom : s.channel.buffer.length < n := hs.capacity ▸ hg.room
    cases hheld : s.held with
    | none =>
      rw [ReaderStatus.contents, hg.held, hheld, hg.isReceiving, hrec, hg.buffer]
      simpa using Nat.succ_le_of_lt hroom
    | some x =>
      have hx : x ∈ Z := by
        rw [hZ]
        simp [ReaderStatus.contents, hheld]
      have ht := hs.held x hheld
      rw [Frame.isTerminal, hdata x hx] at ht
      cases ht
  held x hx := hs.held x (hg.held ▸ hx)

end ReaderStatus.Fits

end QueryBridge
