/-! Ranges of machine words. -/

namespace Turnstile.Word

def max16 : Nat := 0xffff
def max32 : Nat := 0xffffffff
def max64 : Nat := 0xffffffffffffffff

def minSigned64 : Int := -0x8000000000000000
def maxSigned64 : Int := 0x7fffffffffffffff

def isSigned64 (i : Int) : Bool := minSigned64 ≤ i && i ≤ maxSigned64

end Turnstile.Word
