import AcmeClient.Unicode.Runs

/-!
# Letter case

Lowercase forms, and the characters that decide which form a final sigma takes.
-/

namespace AcmeClient.Unicode

/-- Kinds: `C` the numbers, `D` shifted so that the first goes to the number, `A` every second
character its successor, `N` unchanged. -/
def lowercaseRuns : Runs := .ofText "0N 1tD2p qN 2tD68 nN 1D6w 7N xA 1bN 1C2x.lj 1N 1A 5N 2A fN 2A 19N 1C73 1A 5N 3Cgj 1A 3N 1Cgk 1Caw
1N 1Dgm 2Cb0 1N 2Cd9 1Cgp 1Cgr 1Cb6 1N 1Cgw 1Cgz 1N 1Ch5 1Ch4 1Cbd 1N 3Chb 1Che 1N 1Chh 1A 5N 1Chs
1Cbs 1N 1Chv 1N 2Cbx 1N 1Ci0 1Cc0 1N 1Di2 2A 3N 1Cia 1Cc9 1N 3Ccd 1N 7Ccm 1Ccm 1N 1Ccp 1Ccp 1N
1Ccs 1A hN 2A hN 2Cdv 1A 3N 1Cb9 1Ccf 1A 13N 1Cbi 1N 1A hN 7C8rp 1Cfw 1N 1Cbe 1C8rq 1N 2Cg2 1N
1Cao 1Ci1 1Ci4 1A 9N 81A 3N 3Con 1N 8Cs3 1N 6Cq4 1N 1Dq5 3N 1Cr0 1N 1Dr1 2N 1Dq9 hN 1Dqr 9N zCrb
1N 8A nN 5Cqg 1N 2Cs8 1N 1Cs2 1Csb 1N 2Dor 3Duo gDts wN 1cA xN 9A 1hN 1Cy7 1A dN 2A 2nN 2D129 12N
289D8w0 12N 1C8x3 1N 5C8x9 1N k2Dxv4 28D3y0 6N 1ozC5my 1N 6D3bk 17N 2D3ct 3N 8wA 45N 9C67 1N 1A
2nN 9D64g 8N 8D64w 6N aD65c 8N 8D65s 8N 8D668 6N bC66p 1N 1C66r 1N 1C66t 1N 1C66v 1N 8D674 8N
oD680 8N 8D68g 8N 8D68w 8N 8D69c 2D67k 2C69f 1N bD67m 4C69v 1N bD6a8 2D67q 2N cD6ao 2D67u 2C6at 1N
bD67s 2D67w 2C6b7 1N 89Cqx 1N 3C2z 1C6d 1N 6C6ku 1N 19D6ls gN jC6mc 1N mqD79s qN 1f4D8q8 1cN
1cC8rl 1N 1Ch7 1C5tp 1Chp 1N 2A 5N 1Cgh 1Chd 1Cgg 1Cgi 1N 1C8s3 1N 2C8s6 1N 8Dfz 2A 2rN 8A 3N
4C8vn 1N nylA 19N jA rN 3rA dN 3A 1pN aA 3N 1C5tl 1A 9N 4Cx3g 1N 1Ch1 1N 2A 3N 3A jN 1Ch2 1Cgs
1Cgx 1Ch8 1Ch6 1N 1Cim 1Chz 1Cil 1Cxub 1A fN 1Cx3o 1Chu 1C5u6 1A 3N 1Ch0 1A fN 1Cbf 1N oCx6e 1N
h7vD1ef5 qN xxD1fe0 14N 3sD1fiw 10N 4cD1fo7 bN 1D1foj fN 1D1foz 7N 1D1fp7 2N 1d6D1h34 1fN 4dD1h80
mN 27uD1jgg wN gw0D20dc wN 1sD20fv pN o5jD2oma yN"

/-- The characters with case. -/
def casedRuns : Runs := .ofText "0N 1tY qN 6Y qN 1bY 1N aY 1N 4Y 1N 5Y nN 1Y vN 1Y 5fN 1Y 4N 4Y 5sN 2Y zN 7Y 2N uY 5N 2oY 1N 16Y 4N
2Y 2N 2Y 4N 1Y 1N 6Y 1N 1Y 3N 1Y 1N 1Y kN 1Y 2bN 1Y 3vN 8Y 4mN 1Y 12N 9Y 15N 26vY 12N 1Y 1N 5Y 1N
2Y 17N 1Y 4N ioY 2eN 2Y 6N 1oiY bN 5Y 17N 2Y 3N 1sY 5cN 1sY 7qN 2Y 6N 2Y 12N 2Y 6N 2Y 8N 1Y 1N 1Y
1N 1Y 1N 1Y vN 2Y 1hN 1Y 7N 1Y 1N 3Y 3N 1Y 7N 3Y 4N 2Y 6N 4Y dN 5Y 3N 1Y 7N 38Y 1N dY 1N gY dN 2tY
1N 4Y 1N 2Y aN 1Y 1N 3Y 5N 6Y 1N 1Y 1N 1Y 1N 1Y 4N 1Y 6N 4Y 1N 2Y 4N 5Y 5N 4Y 1N hY wN 3Y 2N mpY
1gN 1eeY 6dN 6Y 4N 3Y 2N cY 12N 1Y 1N 5Y 1N nwyY 1aN iY uN 3oY 2uN 3Y 4N 1Y 25N kY 6N 1Y 3N mtY
17N 1Y eN 6Y 28N fnkY 7N cY 5N spY qN 6Y qN x1Y 28N 2oY 10N 4Y 10N 38Y bN 1Y fN 1Y 7N 1Y 2N 1Y bN
1Y fN 1Y 7N 1Y 2N cjY 1N 2Y 3N 1Y 16N 1Y 9N xxY 1fN dY 1fN 2lY mN aY mN 26yY 1sN gv4Y 1sN wY pN 2Y
pN jzgY 2dN 1Y 1zN 1Y 2N 2Y 1N 2Y 2N 2Y 4N 1Y cN 1Y 1N 1Y 7N 1Y 1tN 1Y 4N 2Y 8N 1Y 7N 1Y sN 1Y 4N
1Y 5N 1Y 1N 3Y 7N 1Y 9gN 2Y pN 1Y pN 1Y vN 1Y pN 1Y vN 1Y pN 1Y vN 1Y pN 1Y vN 1Y pN 1Y 8N 1f8Y aN
1Y kN 6Y 6N 79Y 1qN 1oyY 1wN 1kcY qN 6Y qN 6Y qN"

/-- The characters that do not end a word. -/
def caseIgnorableRuns : Runs := .ofText "0N 13Y 1N 6Y 1N bY 1N zY 1N 1Y 1N 1zY 1N 4Y 1N 1Y 1N 4Y 1N 2Y 2N dzY 5cN 4Y 2N 4Y 1N 9Y 2N 1Y 1N
6zY 7N 5rY 1N 5Y 1N 1dY 19N 1Y 1N 1Y 2N 1Y 2N 1Y 1N 18Y 1N bY 6N aY bN 1Y 1N zY 1N aY lN gY 1N 2tY
8N 1Y aN 1Y 4N xY 1N 1Y 1N uY rN 2jY bN 1mY bN 4Y 1N 2Y 1N oY oN 17Y 3N 18Y 1N 7Y 2N 5Y 9N 15Y 1mN
1jY 1N 1Y 1N 4Y 8N 4Y 1N 3Y 7N aY 2N dY 1N fY 1N 1mY 1N 4Y 4N 8Y 1N kY 2N qY 1N 2Y 2N 1lY 1N 4Y 2N
4Y 2N 2Y 3N 3Y 1N uY 2N 3Y 1N bY 2N 1lY 1N 4Y 5N 1Y 2N 4Y 1N kY 2N mY 6N 1Y 1N 1mY 1N 2Y 1N 1Y 4N
8Y 1N 7Y 2N bY 2N uY 1N 1pY 1N cY 1N 1eY 1N 3Y 1N 1jY 1N 1Y 3N 5Y 3N 1Y 4N 7Y 2N bY 2N tY 1N 1mY
1N 2Y 1N 6Y 1N 5Y 2N kY 2N sY 2N 1lY 2N 4Y 4N 8Y 1N kY 2N tY 1N 20Y 1N 7Y 3N 1Y 1N 2iY 1N 2Y 7N bY
9N 2qY 1N 2Y 9N 9Y 1N 1Y 7N 21Y 2N rY 1N 1Y 1N 1Y 1N 1jY eN 1Y 5N 1Y 2N 5Y bN 1Y 10N 9Y 1N 2uY 4N
1Y 6N 1Y 2N 2Y 2N pY 2N 4Y 3N gY 4N dY 1N 2Y 2N 6Y 1N fY 1N 2mY 1N gwY 3N qaY 3N tY 2N uY 2N uY 2N
1sY 2N 1Y 7N 8Y 1N 2Y bN 3Y 1N 5Y 1N 19Y 5N 1fY 1N 1tY 2N yY 1N 3aY 3N 4Y 2N 9Y 1N 6Y 3N 63Y 2N 2Y
1N 1mY 1N 1Y 7N 1Y 1N 1Y 1N 2Y 8N 6Y aN 2Y 1N 13Y 1N 8Y 1aN 2Y cN kY 4N 1cY 1N 1Y 5N 1Y 1N 5Y 1N
14Y 9N cY 2N wY 4N 2Y 2N 1Y 3N 1kY 1N 1Y 2N 3Y 1N 1Y 3N 1mY 8N 2Y 2N 1sY 6N 2aY 3N 1Y dN 1Y 7N 4Y
1N 6Y 1N 3Y 2N 1eY 1rN dY 1N yY 2tN cdY 1N 1Y 3N bY 3N dY 3N dY 3N dY 2N cY 5N 8Y 2N aY 1N 2Y 1N
2Y 5N 1dY 5N 1Y aN 1Y 1N dY 1N gY dN 1fY xN 2a3Y 2N 35Y 3N 3hY 1N fY 1N 2oY wN 1bY 1N d1Y 1N 10Y
4N 3Y 5N 5Y 1N 2lY 6N 2lY 3N lxyY 1N yqY 6N 7iY 1N 2qY 4N 1Y aN 1Y 1N sY 4N 28Y 2N eY yN 26Y 1N nY
3N 2uY 4N 3Y 2N 8Y 1N 3Y 1N 4Y 1N pY 2N 5Y 1N 47Y 2N qY iN dY 1N 12Y 8N pY bN 1aY 3N 1cY 1N 2Y 4N
2Y 2N hY 1N lY 2N 1uY 6N 2Y 2N 2Y 2N cY 1N 8Y 1N zY 1N bY 1N 1fY 1N 1Y 3N 2Y 2N 5Y 2N 1Y 1N rY 1N
eY 2N 5Y 2N 1Y 1N 2sY 5N 9Y 3N 3dY 1N 2Y 1N 4Y 1N fn4Y 1N 43Y hN fxY gN 3Y 1N cY gN yY 1N 2Y 1N
4pY 1N 7Y 1N 6Y 1N bY 1N zY 1N 1Y 1N 1bY 1N 19Y 2N 1vY 1N lY 3N e9Y 1N 6aY 1N 45Y 5N slY 6N 1Y 16N
1Y 9N g6Y 3N 1Y 2N 5Y 4N 14Y 3N 4Y 1N 4lY 2N fxY 4N 12Y 1N qY 5N 1Y 1N 8rY 2N oY 1N 1gY 6N 1yY bN
1dY 4N 3fY 1N 1iY fN 15Y 1N 2Y 2N aY 3N 1dY 4N 2Y 2N 2Y 1N 4Y 1N aY 1N 1eY 3N 10Y 5N 1Y 8N 1qY 1N
cY 2N 1gY 9N aY 4N 2Y 1N 2nY 3N 2Y 1N 1Y 2N 6Y 1N 2Y 1N 4dY 1N 3Y 8N lY 2N 1lY 2N 3Y 1N 11Y 7N 3Y
5N 1yY 6N dY 1N 1Y 1N 1Y 1N eY 2N 2dY 8N 2Y 3N 1Y 1N nY 1N 2cY 6N 1Y 1N 4Y 2N 1Y 2N 6mY 4N 6Y 2N
1Y 2N rY 2N 2dY 8N 2Y 1N 1Y 2N 2yY 1N 1Y 1N 2Y 6N 1Y 1N 2tY 1N 1Y 1N 2Y 4N 1Y 5N 77Y 9N 1Y 2N 74Y
2N 1Y 1N 4Y 1N 40Y 4N 2Y 2N 4Y 1N wY aN 14Y 6N 2Y 4N 8Y 1N 9Y 6N 2Y 3N 1aY dN 1Y 2N 5iY 1N 1Y 3N
1Y 1N 5lY 7N 1Y 6N 1Y 1N 2aY mN 2Y 7N 1Y 2N 1Y 2N 3eY 6N 3Y 1N 1Y 2N 1Y 7N 1Y 1N 20Y 2N 3Y 1N 1Y
1N 1tY 1N 7tY 2N bY 2N 1gY 5N 5Y 1N 1Y 1N nY 1N 445Y hN 6Y fN 8ugY cN 3Y 3N 1xcY 5N 1nY 7N 9Y 4N
e4Y 3N 14Y 2N deY 1N 1rY hN 1sY 2N 1Y 2N dY 2N cn0Y 4N 1Y 7N 1Y 2N 2hqY 2N 1Y 4N 3mkY 1aN 2Y nN
f4Y 3N 9Y gN 2Y 7N uY 4N 44Y 3N 1izY 1jN 4Y 1eN 8Y 1N eY 1N mY 5N 1Y fN 11sY 7N 1Y hN 2Y 7N 1Y 2N
1Y 5N 5Y 1qN xY 1N 4gY eN a8Y 1N 1pY 4N e3Y 5N 72Y 2N 6rY 1N 2Y 1N 7Y 2N 5Y 1N 9Y 1N cwY 7N 31Y 8N
23zY 5N gx6pY 1N uY 2oN 3kY 6oN"

end AcmeClient.Unicode
