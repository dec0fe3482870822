import AcmeClient.Unicode.Runs

/-!
# Combining classes

The canonical combining class orders the marks that follow a base character.
-/

namespace AcmeClient.Unicode

/-- Kind `N` with the class of the run. -/
def combiningRuns : Runs := .ofText "0N0 lcN6e lN6g 1N64 4N6g 1N60 1N64 5N5m 2N64 4N5m 2N64 bN1 5N64 4N6e 3N0 2N6e 1N0 2N6o 1N6e 1N64
3N6e 3N64 2N0 1N6e 3N64 4N6e 1N6g 1N64 2N6e 1N6h 1N6i 2N6h 1N6i 2N6h 1N6e dN0 7nN6e 5N0 7dN64 1N6e
4N64 1N6e 3N66 1N64 1N6e 6N64 6N6e 2N64 1N6e 2N66 1N6c 1N6e 1Na 1Nb 1Nc 1Nd 1Ne 1Nf 1Ng 1Nh 1Ni
1Nj 2Nk 1Nl 1Nm 1N0 1Nn 1N0 1No 1Np 1N0 1N6e 1N64 1N0 1Ni 1N0 20N6e 8Nu 1Nv 1Nw 1N0 1cNr 1Ns 1Nt
1Nu 1Nv 1Nw 1Nx 1Ny 1N6e 2N64 2N6e 5N64 1N6e 2N64 1N0 gNz 1N0 2tN6e 7N0 2N6e 4N64 1N6e 1N0 2N6e
2N0 1N64 1N6e 2N64 1N0 zN10 1N0 uN6e 1N64 1N6e 2N64 1N6e 2N64 3N6e 1N64 2N6e 1N64 1N6e 3N64 1N6e
1N64 1N6e 1N64 1N6e 1N64 1N6e 2N0 4gN6e 7N64 1N6e 1N0 9N64 1N0 oN6e 4N0 1N6e 9N0 1N6e 3N0 1N6e 5N0
17N64 3N0 1nN6e 2N64 3N6e 4N0 16N6e 5N64 5N6e eN0 1N64 1N6e 2N64 1N6e 2N64 1N6e 3N64 3Nr 1Ns 1Nt
1N6e 3N64 1N6e 2N64 2N6e 5N0 1oN7 1N0 gN9 1N0 3N6e 1N64 1N6e 2N0 2vN7 1N0 gN9 1N0 1cN6e 1N0 1pN7
1N0 gN9 1N0 32N7 1N0 gN9 1N0 32N7 1N0 gN9 1N0 3jN9 1N0 32N7 1N0 gN9 1N0 7N2c 1N2j 1N0 2tN7 1N0 gN9
1N0 31N9 2N0 gN9 1N0 3gN9 1N0 31N2v 2N9 1N0 dN2z 4N0 30N3a 2N9 1N0 dN3e 4N0 24N64 2N0 rN64 1N0
1N64 1N0 1N60 1N0 1jN3l 1N3m 1N0 1N3o 1N0 5N3m 4N0 2N3m 1N0 1N6e 2N9 1N0 1N6e 2N0 1qN64 1N0 34N7
1N0 1N9 2N0 2aN64 1N0 jzN6e 3N0 qcN9 2N0 uN9 1N0 4dN9 1N0 aN6e 1N0 5nN6c 1N0 3zN66 1N6e 1N64 1N0
63N6e 1N64 1N0 1zN9 1N0 kN6e 8N0 2N64 1N0 1cN6e 5N64 6N6e 2N64 1N0 1N64 2N6e 2N64 2N6e 5N64 1N6e
iN64 1N0 2N6e 6N64 1N6e 4N6i 1N0 20N7 1N0 fN9 1N0 12N6e 1N64 1N6e 7N0 1iN9 2N0 1mN7 1N0 bN9 2N0
1vN7 1N0 48N6e 3N0 1N1 1N64 5N6e 2N64 4N6e 1N0 1N1 7N0 4N64 1N0 6N6e 1N0 3N6e 2N0 5iN6e 2N64 1N6e
7N64 1N6e 2N6i 1N5y 1N64 1N5m 1N6e 11N6g 1N6c 2N64 1N62 1N6e 1N6h 1N64 1N6e 1N64 1N0 k0N6e 2N1
2N6e 4N1 3N6e 2N0 4N6e 1N0 3N1 2N6e 1N64 1N6e 1N1 2N64 4N6e 1N0 2daN6e 3N0 3xN9 1N0 2oN6e wN0
feN62 1N6c 1N6g 1N66 1N68 2N0 2xN8 2N0 n9wN6e 1N0 4N6e aN0 wN6e 2N0 28N6e 2N0 7oN9 1N0 11N9 1N0
47N9 1N0 rN6e iN0 1lN64 3N0 11N9 1N0 2nN7 1N0 cN9 1N0 6nN6e 1N0 1N6e 2N64 1N0 2N6e 2N0 5N6e 2N0
1N6e 1N0 1gN9 1N0 6uN9 1N0 fn4Nq 1N0 ldN6e 7N64 7N6e 2N0 r1N64 1N0 6aN64 1N0 45N6e 5N0 1aqN64 1N0
1N6e 1N0 14N6e 1N1 1N64 1N0 4N9 1N0 4lN6e 1N64 1N0 fxN6e 4N0 1tN6e 5N0 8tN6e 2N0 25N64 2N0 1N64
3N0 1yN64 2N6e 3N64 1N6e 1N64 4N0 1dN6e 1N64 1N6e 1N64 1N0 5cN9 1N0 15N9 1N0 eN9 1N0 1lN9 1N7 1N0
1xN6e 3N0 1cN9 2N0 1qN7 1N0 24N9 1N0 9N7 1N0 2yN9 1N7 1N0 4yN7 1N9 1N0 28N7 2N0 gN9 1N0 oN6e 7N0
3N6e 5N0 2hN9 3N0 35N9 1N0 3N7 1N0 nN6e 1N0 2rN9 1N7 1N0 6zN9 1N7 1N0 3iN9 1N0 3aN9 1N7 1N0 37N9
1N0 7hN9 1N7 1N0 76N9 2N0 4N7 1N0 4cN9 1N0 2bN9 1N0 iN9 1N0 29N9 1N0 bpN9 1N0 76N7 1N0 1N9 2N0
29N9 1N0 btN9 2N0 d0sN9 1N0 1xcN1 5N0 1nN6e 7N0 xlN6 2N0 f58N1 1N0 43qN60 2N1 3N0 3N6a 1N60 5N0
8N64 8N0 2N6e 5N64 2N0 uN6e 4N0 44N6e 3N0 2pnN6e 7N0 1N6e hN0 2N6e 7N0 1N6e 2N0 1N6e 5N0 2sN6e 1N0
4gN6e 7N0 afN6e 1N0 1pN6e 4N0 e4N6g 2N64 1N6e 1N0 72N6e 1N64 1N0 6rN6e 1N0 2N6e 1N0 7N6e 2N0 5N6e
1N0 d6N64 7N0 31N6e 6N7 1N0"

/-- The canonical combining class of a character. -/
def combiningClass (c : Char) : Nat :=
  if c.toNat < 0x300 then 0 else (combiningRuns.find? c).elim 0 (·.numbers.headD 0)

end AcmeClient.Unicode
