import Mathlib.Data.List.TakeDrop
import WikoPlatform.Lib.Words
import WikoPlatform.Posix

/-! `extension_socket_get` and `extension_socket_put`, over a socket that may take or give the bytes
in parts, may want to be asked again or hang up, while a second pipe cancels the call. -/

namespace WikoPlatform.Chipone.SocketFraming

open Words

abbrev Errno := {errno : Nat // 0 < errno}

def pollIn : Int := 1
def pollOut : Int := 4
def pollHup : Int := 16

inductive IoResult where
  | count (n : Nat)
  | failed (errno : Errno)

structure Round where
  /-- There is a byte in the cancel pipe when the round begins. -/
  cancel : Bool
  pollError : Option Errno
  /-- There are other events at the cancel pipe. -/
  pipeError : Bool
  cancelReadError : Option Errno
  /-- The event that was asked for is there at the socket. -/
  ready : Bool
  io : IoResult

def pollExtensionSocket (pollEvent : Int) (r : Round) : Int :=
  match r.pollError with
  | some errno => -errno
  | none =>
    if r.cancel || r.pipeError then
      match if r.cancel then r.cancelReadError else none with
      | some errno => -errno
      | none => -eintr
    else if r.ready then pollEvent
    else pollHup

/-- The bytes of the caller, and the bytes that can be read from the socket or have been written to
it. -/
structure Link where
  buffer : List UInt8
  stream : List UInt8

/-- `read` of at most `length` bytes to `offset`. -/
def readChunk (offset length n : Nat) (link : Link) : Nat × Link :=
  let bytes := link.stream.take (min n length)
  (bytes.length,
    ⟨link.buffer.take offset ++ bytes ++ link.buffer.drop (offset + bytes.length),
      link.stream.drop bytes.length⟩)

def writeChunk (offset length n : Nat) (link : Link) : Nat × Link :=
  let bytes := (link.buffer.drop offset).take (min n length)
  (bytes.length, { link with stream := link.stream ++ bytes })

/-- Where `tmp` points is an offset, and an access to the memory of the caller an offset and a
number of bytes. -/
structure Moved where
  ret : Option Int
  offset : Nat
  link : Link
  accesses : List (Nat × Nat)
  rest : List Round

def socketLoop (pollEvent : Int) (move : Nat → Nat → Nat → Link → Nat × Link) :
    List Round → Nat → Nat → Link → Moved
  | rounds, offset, 0, link => ⟨some 0, offset, link, [], rounds⟩
  | [], offset, _ + 1, link => ⟨none, offset, link, [], []⟩
  | round :: rounds, offset, left + 1, link =>
    let polled := pollExtensionSocket pollEvent round
    if polled ≠ pollEvent then ⟨some polled, offset, link, [], rounds⟩
    else
      match round.io with
      | .failed errno =>
        if errno = eagain then socketLoop pollEvent move rounds offset (left + 1) link
        else ⟨some (-errno), offset, link, [], rounds⟩
      | .count n =>
        let (count, link) := move offset (left + 1) n link
        if count = 0 then ⟨some 1, offset, link, [], rounds⟩
        else
          let out := socketLoop pollEvent move rounds (offset + count) (left + 1 - count) link
          { out with accesses := (offset, count) :: out.accesses }

/-- The message after a success shows an integer from somewhere. -/
def Moved.logInt (out : Moved) (logd : Bool) (offset : Nat) : Moved :=
  if logd ∧ out.ret = some 0 then { out with accesses := out.accesses ++ [(offset, 4)] } else out

def extensionSocketGet (logd : Bool) (rounds : List Round) (link : Link) : Moved :=
  let out := socketLoop pollIn readChunk rounds 0 link.buffer.length link
  out.logInt logd out.offset

def extensionSocketPut (logd : Bool) (rounds : List Round) (link : Link) : Moved :=
  let out := socketLoop pollOut writeChunk rounds 0 link.buffer.length link
  out.logInt logd 0

def extensionSocketWriteByteArray (logd : Bool) (rounds : List Round) (msg stream : List UInt8) :
    Moved :=
  let out := extensionSocketPut logd rounds ⟨le32 (UInt32.ofNat msg.length), stream⟩
  if out.ret ≠ some 0 then out
  else if 0 < msg.length then extensionSocketPut logd out.rest ⟨msg, out.link.stream⟩
  else out

/-! ### What the loop moves -/

section

variable {pollEvent : Int} {move : Nat → Nat → Nat → Link → Nat × Link}
  {R : Nat → Nat → Link → Link → Prop} {offset left : Nat} {link : Link}

theorem neg_errno_lt (errno : Errno) : -((errno : Nat) : Int) < 0 := by
  omega

theorem some_neg_errno_ne (errno : Errno) : some (-((errno : Nat) : Int)) ≠ some 0 :=
  fun h => (neg_errno_lt errno).ne (Option.some.inj h)

theorem poll_ne_zero (hevent : pollEvent ≠ 0) (r : Round) :
    pollExtensionSocket pollEvent r ≠ 0 := by
  unfold pollExtensionSocket
  split
  · exact (neg_errno_lt _).ne
  · split
    · split
      · exact (neg_errno_lt _).ne
      · decide
    · split
      · exact hevent
      · decide

/-- `R` says what it is to move so many bytes at an offset, and one `read` or `write` does it. -/
structure Carrying (move : Nat → Nat → Nat → Link → Nat × Link)
    (R : Nat → Nat → Link → Link → Prop) : Prop where
  none : ∀ {offset link}, offset ≤ link.buffer.length → R offset 0 link link
  append : ∀ {offset m n link link₁ link₂}, R offset m link link₁ → R (offset + m) n link₁ link₂ →
    R offset (m + n) link link₂
  length : ∀ {offset n link link₁}, R offset n link link₁ →
    link₁.buffer.length = link.buffer.length
  chunk : ∀ {offset left link} (n : Nat), offset + left = link.buffer.length →
    (move offset left n link).1 ≤ left ∧
      R offset (move offset left n link).1 link (move offset left n link).2

structure Moves (R : Nat → Nat → Link → Link → Prop) (offset left moved : Nat) (link : Link)
    (out : Moved) : Prop where
  le : moved ≤ left
  carried : R offset moved link out.link
  offset_eq : out.offset = offset + moved
  ret : out.ret = some 0 ↔ moved = left
  within : ∀ access ∈ out.accesses, access.1 + access.2 ≤ offset + left

theorem moves_none {link' : Link} (hlink : R offset 0 link link') {ret : Option Int}
    (hret : ret ≠ some 0) (rest : List Round) :
    Moves R offset (left + 1) 0 link ⟨ret, offset, link', [], rest⟩ where
  le := Nat.zero_le _
  carried := hlink
  offset_eq := rfl
  ret := iff_of_false hret (by omega)
  within := by simp

theorem Moves.chunk (h : Carrying move R) {count moved : Nat} {link₁ : Link} {out : Moved}
    (hcount : count ≤ left) (hlink : R offset count link link₁)
    (hrest : Moves R (offset + count) (left - count) moved link₁ out) :
    Moves R offset left (count + moved) link
      { out with accesses := (offset, count) :: out.accesses } where
  le := by
    have := hrest.le
    omega
  carried := h.append hlink hrest.carried
  offset_eq := by
    rw [hrest.offset_eq, Nat.add_assoc]
  ret := by
    rw [hrest.ret]
    omega
  within := by
    refine List.forall_mem_cons.mpr ⟨Nat.add_le_add_left hcount offset, fun access haccess => ?_⟩
    have := hrest.within access haccess
    omega

theorem socketLoop_moves (h : Carrying move R) (hevent : pollEvent ≠ 0) (rounds : List Round)
    (hroom : offset + left = link.buffer.length) : ∃ moved, Moves R offset left moved link
      (socketLoop pollEvent move rounds offset left link) := by
  have hnone : R offset 0 link link := h.none (by omega)
  fun_induction socketLoop pollEvent move rounds offset left link with
  | case1 rounds offset link => exact ⟨0, Nat.le_refl 0, hnone, rfl, by simp, by simp⟩
  | case2 offset left link => exact ⟨0, moves_none hnone (by simp) []⟩
  | case3 round rounds offset left link polled hpoll =>
    have hret : some polled ≠ some 0 :=
      fun hzero => poll_ne_zero hevent round (Option.some.inj hzero)
    exact ⟨0, moves_none hnone hret rounds⟩
  | case4 round rounds offset left link polled hpoll errno hio hagain ih => exact ih hroom hnone
  | case5 round rounds offset left link polled hpoll errno hio hagain =>
    exact ⟨0, moves_none hnone (some_neg_errno_ne errno) rounds⟩
  | case6 round rounds offset left link polled hpoll n hio link₁ hmove =>
    obtain ⟨-, hlink⟩ := h.chunk n hroom
    rw [hmove] at hlink
    exact ⟨0, moves_none hlink (by simp) rounds⟩
  | case7 round rounds offset left link polled hpoll n hio count link₁ hmove hcount out ih =>
    obtain ⟨hle, hlink⟩ := h.chunk n hroom
    simp only [hmove] at hle hlink
    have hlen := h.length hlink
    obtain ⟨moved, hrest⟩ := ih (by omega) (h.none (by omega))
    exact ⟨_, hrest.chunk h hle hlink⟩

/-! ### Cancelling -/

theorem poll_cancel {r : Round} (h : r.cancel = true) : pollExtensionSocket pollEvent r < 0 := by
  unfold pollExtensionSocket
  cases r.pollError with
  | some errno => exact neg_errno_lt errno
  | none =>
    simp only [h, Bool.true_or, if_true]
    cases r.cancelReadError with
    | some errno => exact neg_errno_lt errno
    | none => decide

theorem socketLoop_cancel (hevent : 0 < pollEvent) {before after : List Round} {round : Round}
    (hcancel : round.cancel = true)
    (hwaits : (socketLoop pollEvent move before offset left link).ret = none) :
    socketLoop pollEvent move (before ++ round :: after) offset left link =
      { socketLoop pollEvent move before offset left link with
        ret := some (pollExtensionSocket pollEvent round), rest := after } := by
  fun_induction socketLoop pollEvent move before offset left link with
  | case1 | case3 | case5 | case6 => cases hwaits
  | case2 offset left link =>
    have hneg : pollExtensionSocket pollEvent round < 0 := poll_cancel hcancel
    have hrefuse : pollExtensionSocket pollEvent round ≠ pollEvent := by omega
    exact if_pos hrefuse
  | case4 first before offset left link polled hpoll errno hio hagain ih =>
    rw [List.cons_append, socketLoop]
    rw [if_neg hpoll, hio]
    dsimp only
    rw [if_pos hagain]
    exact ih hwaits
  | case7 first before offset left link polled hpoll n hio count link₁ hmove hcount out ih =>
    rw [List.cons_append, socketLoop]
    rw [if_neg hpoll, hio]
    dsimp only
    rw [hmove]
    rw [if_neg hcount, ih hwaits]

end

/-! ### Both directions -/

/-- `n` bytes went from the stream to the buffer. -/
structure Received (offset n : Nat) (link link' : Link) : Prop where
  room : offset + n ≤ link.buffer.length
  there : n ≤ link.stream.length
  buffer : link'.buffer = link.buffer.take offset ++ link.stream.take n ++
    link.buffer.drop (offset + n)
  stream : link'.stream = link.stream.drop n

/-- `n` bytes of the buffer went to the stream. -/
structure Sent (offset n : Nat) (link link' : Link) : Prop where
  room : offset + n ≤ link.buffer.length
  buffer : link'.buffer = link.buffer
  stream : link'.stream = link.stream ++ (link.buffer.drop offset).take n

theorem take_length_take (bytes : List UInt8) (n : Nat) :
    bytes.take (bytes.take n).length = bytes.take n := by
  rw [List.length_take, ← List.take_eq_take_min]

theorem carrying_readChunk : Carrying readChunk Received where
  none {offset link} h := ⟨h, Nat.zero_le _, by simp, rfl⟩
  append {offset m n link link₁ link₂} h h' := by
    obtain ⟨hroom, hthere, hbuf, hstream⟩ := h
    obtain ⟨hroom', hthere', hbuf', hstream'⟩ := h'
    have hlen : (link.buffer.take offset ++ link.stream.take m).length = offset + m := by
      simp only [List.length_append, List.length_take]
      omega
    have hfront : link₁.buffer.take (offset + m) =
        link.buffer.take offset ++ link.stream.take m := by
      rw [hbuf, ← hlen, List.take_left]
    have hback : link₁.buffer.drop (offset + m) = link.buffer.drop (offset + m) := by
      rw [hbuf, List.drop_left' hlen]
    have hsize : link₁.buffer.length = link.buffer.length := by
      simp only [hbuf, List.length_append, List.length_take, List.length_drop]
      omega
    refine ⟨by omega, ?_, ?_, ?_⟩
    · rw [hstream, List.length_drop] at hthere'
      omega
    · rw [hbuf', hfront, hstream, ← List.drop_drop, hback, List.drop_drop, List.take_add,
        Nat.add_assoc, List.append_assoc (link.buffer.take offset)]
    · rw [hstream', hstream, List.drop_drop]
  length {offset n link link₁} h := by
    have := h.room
    have := h.there
    simp only [h.buffer, List.length_append, List.length_take, List.length_drop]
    omega
  chunk {offset left link} n h := by
    have hlen : (link.stream.take (min n left)).length ≤ left := by
      rw [List.length_take]
      omega
    refine ⟨hlen, ?_, ?_, ?_, rfl⟩
    · show offset + (link.stream.take (min n left)).length ≤ _
      omega
    · show (link.stream.take (min n left)).length ≤ _
      rw [List.length_take]
      omega
    · simp only [readChunk, take_length_take]

theorem carrying_writeChunk : Carrying writeChunk Sent where
  none {offset link} h := ⟨h, rfl, by simp⟩
  append {offset m n link link₁ link₂} h h' := by
    have hroom' := h'.room
    rw [h.buffer] at hroom'
    refine ⟨by omega, by rw [h'.buffer, h.buffer], ?_⟩
    rw [h'.stream, h.stream, h.buffer, List.append_assoc, List.take_add, List.drop_drop]
  length {offset n link link₁} h := by rw [h.buffer]
  chunk {offset left link} n h := by
    have hlen : ((link.buffer.drop offset).take (min n left)).length ≤ left := by
      rw [List.length_take]
      omega
    refine ⟨hlen, ?_, rfl, ?_⟩
    · show offset + ((link.buffer.drop offset).take (min n left)).length ≤ _
      omega
    · simp only [writeChunk, take_length_take]

/-! ### Calls -/

inductive Direction where
  | get | put
  deriving DecidableEq

structure SocketCall where
  direction : Direction
  logd : Bool
  rounds : List Round
  link : Link

def SocketCall.run (c : SocketCall) : Moved :=
  match c.direction with
  | .get => extensionSocketGet c.logd c.rounds c.link
  | .put => extensionSocketPut c.logd c.rounds c.link

/-- The whole buffer was filled, or put. -/
def Transferred : Direction → Link → Link → Prop
  | .get, link, link' =>
    link'.buffer.length = link.buffer.length ∧ link.stream = link'.buffer ++ link'.stream
  | .put, link, link' => link'.stream = link.stream ++ link.buffer

/-- A 0 means that all was transferred; a cancel ends the call. -/
structure SocketCall.Sound (c : SocketCall) : Prop where
  ret : c.run.ret = some 0 ↔ Transferred c.direction c.link c.run.link
  /-- A cancel is pending when the call begins, or when a round begins after others. -/
  cancelled : ∀ before round after, c.rounds = before ++ round :: after → round.cancel = true →
    before = [] ∨ { c with rounds := before }.run.ret = none →
      (∃ code, c.run.ret = some code ∧ code ≠ 0) ∧
        c.run.link = { c with rounds := before }.run.link
  within : ∀ access ∈ c.run.accesses, access.1 + access.2 ≤ c.link.buffer.length

/-- Bytes move, or the call is to be made again. -/
def Round.Serves (r : Round) : Prop :=
  r.pollError = none ∧ r.cancel = false ∧ r.pipeError = false ∧ r.ready = true ∧
    match r.io with
    | .count n => 0 < n
    | .failed errno => errno = eagain

def Round.offers (r : Round) : Nat :=
  match r.io with
  | .count n => n
  | .failed _ => 0

/-- The first rounds serve, and have room for `length` bytes. -/
def Delivers (rounds : List Round) (length : Nat) : Prop :=
  ∃ n, (∀ round ∈ rounds.take n, round.Serves) ∧
    length ≤ ((rounds.take n).map Round.offers).sum

/-- Every byte is there and is delivered. -/
def SocketCall.Completes (c : SocketCall) : Prop :=
  (c.direction = .get → c.link.buffer.length ≤ c.link.stream.length) ∧
    Delivers c.rounds c.link.buffer.length

/-- A logged call that completes puts four bytes, and an empty one meets no cancel. -/
def SocketCall.Fine (c : SocketCall) : Prop :=
  (c.logd = true → c.Completes → c.direction = .put ∧ 4 ≤ c.link.buffer.length) ∧
    (c.link.buffer = [] → ∀ round ∈ c.rounds.head?, round.cancel = false)

def ArraysIntact : Prop :=
  ∀ logd rounds msg, msg.length < 2 ^ 32 →
    (extensionSocketWriteByteArray logd rounds msg []).ret = some 0 →
      ∀ logd' rounds' size more, size.length = 4 →
        let first := extensionSocketGet logd' rounds'
          ⟨size, (extensionSocketWriteByteArray logd rounds msg []).link.stream ++ more⟩
        first.ret = some 0 → (get32 first.link.buffer 0).toNat = msg.length ∧
          ∀ rounds'' bytes, bytes.length = msg.length →
            let second := extensionSocketGet logd' rounds'' ⟨bytes, first.link.stream⟩
            second.ret = some 0 → second.link = ⟨msg, more⟩

namespace SocketCall

def loop (c : SocketCall) (rounds : List Round) : Moved :=
  match c.direction with
  | .get => socketLoop pollIn readChunk rounds 0 c.link.buffer.length c.link
  | .put => socketLoop pollOut writeChunk rounds 0 c.link.buffer.length c.link

def moved : Direction → Nat → Nat → Link → Link → Prop
  | .get => Received
  | .put => Sent

def logged (c : SocketCall) (rounds : List Round) : Nat :=
  match c.direction with
  | .get => (c.loop rounds).offset
  | .put => 0

end SocketCall

@[simp] theorem Moved.logInt_ret (out : Moved) (logd : Bool) (offset : Nat) :
    (out.logInt logd offset).ret = out.ret := by
  unfold logInt
  split <;> rfl

@[simp] theorem Moved.logInt_link (out : Moved) (logd : Bool) (offset : Nat) :
    (out.logInt logd offset).link = out.link := by
  unfold logInt
  split <;> rfl

section

variable (c : SocketCall)

theorem SocketCall.run_eq (rounds : List Round) :
    { c with rounds := rounds }.run = (c.loop rounds).logInt c.logd (c.logged rounds) := by
  obtain ⟨direction, logd, _, link⟩ := c
  cases direction <;> rfl

theorem SocketCall.loop_moves (rounds : List Round) :
    ∃ n, Moves (moved c.direction) 0 c.link.buffer.length n c.link (c.loop rounds) := by
  obtain ⟨direction, logd, rounds', link⟩ := c
  cases direction with
  | get => exact socketLoop_moves carrying_readChunk (by decide) rounds (Nat.zero_add _)
  | put => exact socketLoop_moves carrying_writeChunk (by decide) rounds (Nat.zero_add _)

theorem SocketCall.loop_cancel {before after : List Round} {round : Round}
    (hcancel : round.cancel = true) (hwaits : (c.loop before).ret = none) :
    ∃ code, code ≠ 0 ∧ (c.loop (before ++ round :: after)).ret = some code ∧
      (c.loop (before ++ round :: after)).link = (c.loop before).link := by
  obtain ⟨direction, logd, rounds, link⟩ := c
  cases direction with
  | get =>
    have hneg : pollExtensionSocket pollIn round < 0 := poll_cancel hcancel
    refine ⟨_, Int.ne_of_lt hneg, ?_⟩
    simp only [loop] at hwaits ⊢
    rw [socketLoop_cancel (by decide) hcancel hwaits]
    exact ⟨rfl, rfl⟩
  | put =>
    have hneg : pollExtensionSocket pollOut round < 0 := poll_cancel hcancel
    refine ⟨_, Int.ne_of_lt hneg, ?_⟩
    simp only [loop] at hwaits ⊢
    rw [socketLoop_cancel (by decide) hcancel hwaits]
    exact ⟨rfl, rfl⟩

theorem transferred_iff {direction : Direction} {n : Nat} {link link' : Link}
    (h : SocketCall.moved direction 0 n link link') :
    Transferred direction link link' ↔ n = link.buffer.length := by
  cases direction with
  | get =>
    obtain ⟨hroom, hthere, hbuf, hstream⟩ := h
    rw [Nat.zero_add] at hroom hbuf
    rw [List.take_zero, List.nil_append] at hbuf
    constructor
    · rintro ⟨hlen, hall⟩
      have hsum := congrArg List.length hall
      rw [List.length_append, hstream, List.length_drop] at hsum
      omega
    · rintro rfl
      rw [List.drop_length, List.append_nil] at hbuf
      refine ⟨?_, ?_⟩
      · rw [hbuf, List.length_take_of_le hthere]
      · rw [hbuf, hstream, List.take_append_drop]
  | put =>
    obtain ⟨hroom, -, hstream⟩ := h
    rw [Nat.zero_add] at hroom
    rw [List.drop_zero] at hstream
    show link'.stream = link.stream ++ link.buffer ↔ _
    rw [hstream, List.append_cancel_left_eq]
    constructor
    · intro hall
      have hlen := congrArg List.length hall
      rw [List.length_take_of_le hroom] at hlen
      exact hlen
    · rintro rfl
      exact List.take_length

theorem ret_iff_transferred (rounds : List Round) :
    (c.loop rounds).ret = some 0 ↔ Transferred c.direction c.link (c.loop rounds).link := by
  obtain ⟨n, hmoves⟩ := c.loop_moves rounds
  rw [hmoves.ret, transferred_iff hmoves.carried]

theorem delivers_zero (rounds : List Round) : Delivers rounds 0 := ⟨0, by simp⟩

theorem not_delivers_nil (left : Nat) : ¬Delivers [] (left + 1) := by
  rintro ⟨n, -, hsum⟩
  simp at hsum

theorem delivers_cons {round : Round} {rounds : List Round} {left : Nat} :
    Delivers (round :: rounds) (left + 1) ↔
      round.Serves ∧ Delivers rounds (left + 1 - round.offers) := by
  constructor
  · rintro ⟨n, hserves, hsum⟩
    cases n with
    | zero => simp at hsum
    | succ n =>
      rw [List.take_succ_cons, List.forall_mem_cons] at hserves
      rw [List.take_succ_cons, List.map_cons, List.sum_cons] at hsum
      exact ⟨hserves.1, n, hserves.2, by omega⟩
  · rintro ⟨hserves, n, hrest, hsum⟩
    refine ⟨n + 1, ?_, ?_⟩
    · rw [List.take_succ_cons, List.forall_mem_cons]
      exact ⟨hserves, hrest⟩
    · rw [List.take_succ_cons, List.map_cons, List.sum_cons]
      omega

/-- `stock` bytes are there to be moved from an offset on, and one `read` or `write` takes what it
can of them. -/
structure Stocked (move : Nat → Nat → Nat → Link → Nat × Link) (stock : Nat → Link → Nat) :
    Prop where
  count : ∀ offset left n link,
    (move offset left n link).1 = min (min n left) (stock offset link)
  rest : ∀ offset left n link,
    stock (offset + (move offset left n link).1) (move offset left n link).2 =
      stock offset link - (move offset left n link).1

theorem stocked_readChunk : Stocked readChunk fun _ link => link.stream.length where
  count _ _ _ _ := List.length_take
  rest _ _ _ _ := List.length_drop

theorem stocked_writeChunk : Stocked writeChunk fun offset link => link.buffer.length - offset where
  count _ _ _ _ := by
    simp only [writeChunk, List.length_take, List.length_drop]
  rest _ _ _ _ := (Nat.sub_sub _ _ _).symm

theorem poll_eq_iff {pollEvent : Int} (hevent : 0 < pollEvent) (hhup : pollEvent ≠ pollHup)
    (r : Round) : pollExtensionSocket pollEvent r = pollEvent ↔
      r.pollError = none ∧ r.cancel = false ∧ r.pipeError = false ∧ r.ready = true := by
  have hneg : ∀ errno : Errno, -((errno : Nat) : Int) ≠ pollEvent := by omega
  unfold pollExtensionSocket
  cases r.pollError with
  | some errno => exact iff_of_false (hneg errno) (by simp)
  | none =>
    cases hpipe : r.cancel || r.pipeError with
    | true =>
      rw [if_pos rfl]
      refine iff_of_false ?_ (by rintro ⟨-, hcancel, herror, -⟩; simp [hcancel, herror] at hpipe)
      cases if r.cancel then r.cancelReadError else none with
      | some errno => exact hneg errno
      | none =>
        show -eintr ≠ pollEvent
        unfold eintr
        omega
    | false =>
      rw [Bool.or_eq_false_iff] at hpipe
      cases hready : r.ready with
      | true => simp [hpipe]
      | false => simp [hhup.symm]

theorem Round.serves_iff {pollEvent : Int} (hevent : 0 < pollEvent) (hhup : pollEvent ≠ pollHup)
    (r : Round) : r.Serves ↔ pollExtensionSocket pollEvent r = pollEvent ∧
      match r.io with
      | .count n => 0 < n
      | .failed errno => errno = eagain := by
  rw [poll_eq_iff hevent hhup, Round.Serves]
  simp only [and_assoc]

/-- 0 exactly if there are bytes enough and the rounds deliver them. -/
theorem socketLoop_ret_iff {pollEvent : Int} {move : Nat → Nat → Nat → Link → Nat × Link}
    {stock : Nat → Link → Nat} (h : Stocked move stock) (hevent : 0 < pollEvent)
    (hhup : pollEvent ≠ pollHup) (rounds : List Round) (offset left : Nat) (link : Link) :
    (socketLoop pollEvent move rounds offset left link).ret = some 0 ↔
      left ≤ stock offset link ∧ Delivers rounds left := by
  fun_induction socketLoop pollEvent move rounds offset left link with
  | case1 rounds offset link => simp [delivers_zero]
  | case2 offset left link => simp [not_delivers_nil]
  | case3 round rounds offset left link polled hpoll =>
    have hret : some polled ≠ some 0 :=
      fun hzero => poll_ne_zero (by omega) round (Option.some.inj hzero)
    rw [delivers_cons, round.serves_iff hevent hhup]
    exact iff_of_false hret fun hall => hpoll hall.2.1.1
  | case4 round rounds offset left link polled hpoll errno hio hagain ih =>
    have hserves : round.Serves :=
      (round.serves_iff hevent hhup).mpr ⟨not_ne_iff.mp hpoll, by rw [hio]; exact hagain⟩
    have hoffers : round.offers = 0 := by rw [Round.offers, hio]
    rw [ih, delivers_cons, and_iff_right hserves, hoffers, Nat.sub_zero]
  | case5 round rounds offset left link polled hpoll errno hio hagain =>
    rw [delivers_cons, round.serves_iff hevent hhup, hio]
    exact iff_of_false (some_neg_errno_ne errno) fun hall => hagain hall.2.1.2
  | case6 round rounds offset left link polled hpoll n hio link₁ hmove =>
    have hcount := h.count offset (left + 1) n link
    rw [hmove] at hcount
    rw [delivers_cons, round.serves_iff hevent hhup, hio]
    refine iff_of_false (by simp) fun hall => ?_
    obtain ⟨hstock, ⟨-, hpos⟩, -⟩ := hall
    dsimp only at hpos hcount
    omega
  | case7 round rounds offset left link polled hpoll n hio count link₁ hmove hcount out ih =>
    have hmoved := h.count offset (left + 1) n link
    have hrest := h.rest offset (left + 1) n link
    rw [hmove] at hmoved hrest
    dsimp only at hmoved hrest
    have hserves : round.Serves :=
      (round.serves_iff hevent hhup).mpr ⟨not_ne_iff.mp hpoll, by rw [hio]; dsimp only; omega⟩
    have hoffers : round.offers = n := by rw [Round.offers, hio]
    have hout : out.ret = some 0 ↔ _ := ih
    rw [hout, hrest, delivers_cons, and_iff_right hserves, hoffers]
    -- a round that leaves some of the bytes has taken all that were there
    by_cases hstock : left + 1 ≤ stock offset link
    · have hleft : left + 1 - count = left + 1 - n := by omega
      rw [hleft]
      exact and_congr_left fun _ => by omega
    · exact iff_of_false (fun hall => hstock (by omega)) fun hall => hstock hall.1

theorem loop_ret_iff (c : SocketCall) (rounds : List Round) :
    (c.loop rounds).ret = some 0 ↔ { c with rounds := rounds }.Completes := by
  obtain ⟨direction, logd, _, link⟩ := c
  cases direction with
  | get =>
    have hiff := socketLoop_ret_iff stocked_readChunk (by decide : 0 < pollIn) (by decide) rounds 0
      link.buffer.length link
    simpa [SocketCall.loop, SocketCall.Completes] using hiff
  | put =>
    have hiff := socketLoop_ret_iff stocked_writeChunk (by decide : 0 < pollOut) (by decide) rounds
      0 link.buffer.length link
    simpa [SocketCall.loop, SocketCall.Completes] using hiff

theorem within_iff (rounds : List Round) :
    (∀ access ∈ { c with rounds := rounds }.run.accesses,
        access.1 + access.2 ≤ c.link.buffer.length) ↔
      (c.logd = true → (c.loop rounds).ret = some 0 →
        c.direction = .put ∧ 4 ≤ c.link.buffer.length) := by
  obtain ⟨n, hmoves⟩ := c.loop_moves rounds
  have hwithin := hmoves.within
  rw [Nat.zero_add] at hwithin
  rw [c.run_eq, Moved.logInt]
  by_cases hlogs : c.logd = true ∧ (c.loop rounds).ret = some 0
  · have hmessage : c.logged rounds + 4 ≤ c.link.buffer.length ↔
        c.direction = .put ∧ 4 ≤ c.link.buffer.length := by
      have hall := hmoves.ret.mp hlogs.2
      have hoffset := hmoves.offset_eq
      unfold SocketCall.logged
      cases c.direction with
      | get =>
        refine iff_of_false ?_ (by simp)
        dsimp only
        omega
      | put => simp
    rw [if_pos hlogs, List.forall_mem_append, and_iff_right hwithin]
    simpa [hlogs] using hmessage
  · rw [if_neg hlogs]
    exact iff_of_true hwithin fun hlogd hret => absurd ⟨hlogd, hret⟩ hlogs

end

namespace SocketCall

variable (c : SocketCall)

theorem loop_nil_waits (h : c.link.buffer ≠ []) : (c.loop []).ret = none := by
  obtain ⟨direction, logd, rounds, ⟨buffer, stream⟩⟩ := c
  cases buffer with
  | nil => exact absurd rfl h
  | cons b buffer => cases direction <;> rfl

theorem loop_empty (h : c.link.buffer = []) (rounds : List Round) :
    (c.loop rounds).ret = some 0 := by
  obtain ⟨n, hmoves⟩ := c.loop_moves rounds
  have hle := hmoves.le
  rw [h] at hle
  rw [hmoves.ret, h]
  exact Nat.le_zero.mp hle

theorem sound_of_fine (h : c.Fine) : c.Sound := by
  have hrun : c.run = (c.loop c.rounds).logInt c.logd (c.logged c.rounds) := c.run_eq c.rounds
  obtain ⟨hlogs, hempty⟩ := h
  refine ⟨?_, ?_, ?_⟩
  · rw [hrun, Moved.logInt_ret, Moved.logInt_link]
    exact ret_iff_transferred c c.rounds
  · intro before round after hrounds hcancel hwaits
    have hwaits' : (c.loop before).ret = none := by
      rcases hwaits with rfl | hwaits
      · refine c.loop_nil_waits fun hbuf => ?_
        have := hempty hbuf round (by simp [hrounds])
        simp [this] at hcancel
      · rwa [c.run_eq, Moved.logInt_ret] at hwaits
    obtain ⟨code, hcode, hret, hlink⟩ := c.loop_cancel hcancel hwaits'
    rw [hrun, Moved.logInt_ret, Moved.logInt_link, c.run_eq, Moved.logInt_link, hrounds]
    exact ⟨⟨code, hret, hcode⟩, hlink⟩
  · exact (within_iff c c.rounds).mpr fun hlogd hret =>
      hlogs hlogd ((loop_ret_iff c c.rounds).mp hret)

theorem fine_of_sound (h : c.Sound) : c.Fine := by
  have hrun : c.run = (c.loop c.rounds).logInt c.logd (c.logged c.rounds) := c.run_eq c.rounds
  have hret : c.run.ret = (c.loop c.rounds).ret := by rw [hrun, Moved.logInt_ret]
  refine ⟨fun hlogd hcompletes => ?_, fun hbuf round hround => ?_⟩
  · exact (within_iff c c.rounds).mp h.within hlogd ((loop_ret_iff c c.rounds).mpr hcompletes)
  · by_contra hcancel
    obtain ⟨after, hrounds⟩ := List.head?_eq_some_iff.mp hround
    obtain ⟨⟨code, hcode, hne⟩, -⟩ :=
      h.cancelled [] round after hrounds (by simpa using hcancel) (.inl rfl)
    rw [hret, c.loop_empty hbuf] at hcode
    exact hne (Option.some.inj hcode).symm

end SocketCall

/-! ### Arrays -/

variable {logd : Bool} {rounds : List Round} {link : Link} {stream : List UInt8}

theorem get_transferred (h : (extensionSocketGet logd rounds link).ret = some 0) :
    Transferred .get link (extensionSocketGet logd rounds link).link := by
  have hiff := ret_iff_transferred ⟨.get, logd, rounds, link⟩ rounds
  rw [extensionSocketGet, Moved.logInt_ret] at h
  rw [extensionSocketGet, Moved.logInt_link]
  exact hiff.mp h

theorem put_transferred (h : (extensionSocketPut logd rounds link).ret = some 0) :
    (extensionSocketPut logd rounds link).link.stream = link.stream ++ link.buffer := by
  have hiff := ret_iff_transferred ⟨.put, logd, rounds, link⟩ rounds
  rw [extensionSocketPut, Moved.logInt_ret] at h
  rw [extensionSocketPut, Moved.logInt_link]
  exact hiff.mp h

theorem writeByteArray_stream {msg : List UInt8}
    (h : (extensionSocketWriteByteArray logd rounds msg stream).ret = some 0) :
    (extensionSocketWriteByteArray logd rounds msg stream).link.stream =
      stream ++ le32 (UInt32.ofNat msg.length) ++ msg := by
  unfold extensionSocketWriteByteArray at h ⊢
  by_cases hsize :
      (extensionSocketPut logd rounds ⟨le32 (UInt32.ofNat msg.length), stream⟩).ret = some 0
  · rw [if_neg (not_not.mpr hsize)] at h ⊢
    by_cases hmsg : 0 < msg.length
    · rw [if_pos hmsg] at h ⊢
      rw [put_transferred h, put_transferred hsize]
    · rw [if_neg hmsg, put_transferred hsize]
      rw [List.length_pos_iff, not_not] at hmsg
      rw [hmsg, List.append_nil]
  · rw [if_pos hsize] at h
    exact absurd h hsize

theorem get_front {buffer front rest : List UInt8} (hstream : stream = front ++ rest)
    (hlen : buffer.length = front.length)
    (h : (extensionSocketGet logd rounds ⟨buffer, stream⟩).ret = some 0) :
    (extensionSocketGet logd rounds ⟨buffer, stream⟩).link = ⟨front, rest⟩ := by
  obtain ⟨hlen', hparts⟩ := get_transferred h
  obtain ⟨hfront, hrest⟩ := List.append_inj (hstream.symm.trans hparts) (hlen'.trans hlen).symm
  rw [hfront, hrest]

theorem arraysIntact : ArraysIntact := by
  intro logd rounds msg hshort hwritten logd' rounds' size more hsize first hfirst
  have hstream : (extensionSocketWriteByteArray logd rounds msg []).link.stream ++ more =
      le32 (UInt32.ofNat msg.length) ++ (msg ++ more) := by
    rw [writeByteArray_stream hwritten, List.nil_append, List.append_assoc]
  have hlink : first.link = ⟨le32 (UInt32.ofNat msg.length), msg ++ more⟩ :=
    get_front hstream hsize hfirst
  rw [hlink]
  constructor
  · have hread : get32 (le32 (UInt32.ofNat msg.length)) 0 = UInt32.ofNat msg.length :=
      get32_field [] _ []
    rw [hread, UInt32.toNat_ofNat', Nat.mod_eq_of_lt hshort]
  · intro rounds'' bytes hbytes second hsecond
    exact get_front rfl hbytes hsecond

/-- Calls are sound exactly if they are fine, and arrays arrive intact. -/
theorem socketFraming_iff (c : SocketCall) : (c.Sound ↔ c.Fine) ∧ ArraysIntact :=
  ⟨⟨c.fine_of_sound, c.sound_of_fine⟩, arraysIntact⟩

theorem not_socketFraming_logged : ¬SocketCall.Sound ⟨.get, true,
    [⟨false, none, false, none, true, .count 1⟩], ⟨[0], [7]⟩⟩ := by
  intro h
  exact absurd (h.within (1, 4) (by decide)) (by decide)

end WikoPlatform.Chipone.SocketFraming
