/-!
# The Mersenne Twister

The 32-bit pseudo-random generator of period `2 ^ 19937 - 1`. Its state is the window of the
last 624 words of a linear recurrence; the words are tempered before they are handed out.
-/

namespace IdentityMap

/-- The last 624 words of the recurrence, the oldest first. -/
structure Twister where
  window : Vector UInt32 624

namespace Twister

def seedWord (seed : UInt32) : Nat → UInt32
  | 0 => seed
  | i + 1 =>
    let previous := seedWord seed i
    (1812433253 : UInt32) * (previous ^^^ (previous >>> 30)) + UInt32.ofNat (i + 1)

def ofSeed (seed : UInt32) : Twister :=
  ⟨Vector.ofFn fun i : Fin 624 => seedWord seed i⟩

/-- The linear map of the recurrence, on the top bit of one word and the rest of the next. -/
def twist (word next : UInt32) : UInt32 :=
  let joined := (word &&& 0x80000000) ||| (next &&& 0x7fffffff)
  (joined >>> 1) ^^^ (if joined &&& 1 = 1 then 0x9908b0df else 0)

def temper (word : UInt32) : UInt32 :=
  let word := word ^^^ (word >>> 11)
  let word := word ^^^ ((word <<< 7) &&& 0x9d2c5680)
  let word := word ^^^ ((word <<< 15) &&& 0xefc60000)
  word ^^^ (word >>> 18)

def nextWord (twister : Twister) : UInt32 :=
  twister.window[397] ^^^ twist twister.window[0] twister.window[1]

def shift (twister : Twister) : Twister :=
  ⟨Vector.ofFn fun i : Fin 624 =>
    if h : i.val + 1 < 624 then twister.window[i.val + 1] else twister.nextWord⟩

def draw (twister : Twister) : UInt32 × Twister :=
  (temper twister.nextWord, twister.shift)

end Twister

end IdentityMap
